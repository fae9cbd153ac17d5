import DocHighlight.Json.Writer
import DocHighlight.Proofs.Json.Acceptance
import DocHighlight.Proofs.Json.Traversal

/-!
# The writer spells what it writes

The compact text of a value spells that value, within limits that its numbers and its nesting fit.
Floating-point numbers are the exception: one that is not finite is written as `null`, and what the
text of a finite one spells is left open here. So the statement takes a function that says what the
text of each number spells; for a value without such numbers the function does not matter.
-/

namespace DocHighlight.Json

theorem digits_decimalDigits (value : Nat) : Digits (NumberLayout.decimalDigits value) :=
  fun _ mem => Nat.isDigit_of_mem_toDigits (by decide) (by decide) mem

@[simp]
theorem digitsValue_decimalDigits (value : Nat) :
    digitsValue (NumberLayout.decimalDigits value) = value :=
  Nat.ofDigitChars_ten_toDigits

/-- The digits of a positive number do not begin with zero. -/
theorem decimalDigits_of_pos {value : Nat} (positive : value ≠ 0) :
    ∃ first rest, NumberLayout.decimalDigits value = first :: rest ∧ first ≠ '0' := by
  induction value using Nat.strongRecOn with
  | ind value ih =>
      rcases Nat.lt_or_ge value 10 with small | large
      · exact ⟨value.digitChar, [], Nat.toDigits_of_lt_base small, by simpa using positive⟩
      · rcases ih (value / 10) (Nat.div_lt_self (by omega) (by decide)) (by omega) with
          ⟨first, rest, same, notZero⟩
        refine ⟨first, rest ++ [(value % 10).digitChar], ?_, notZero⟩
        rw [NumberLayout.decimalDigits, Nat.toDigits_of_base_le (by decide) large,
          ← List.cons_append, ← same, NumberLayout.decimalDigits]

/-- Written digits are the integer part of a number if there are not too many of them. -/
theorem whole_decimalDigits {limits : Limits} {value : Nat}
    (fits : (NumberLayout.decimalDigits value).length ≤ limits.digits) :
    Whole limits (NumberLayout.decimalDigits value) := by
  by_cases zero : value = 0
  · subst zero
    exact .zero
  · rcases decimalDigits_of_pos zero with ⟨first, rest, same, notZero⟩
    have digits := digits_decimalDigits value
    rw [same] at digits fits ⊢
    exact .positive digits notZero fits

/-- How many digits an integer is written with; none for any other value. -/
def digitCount : Json → Nat
  | .integer value => (NumberLayout.decimalDigits value.natAbs).length
  | _ => 0

theorem spellsNumber_integer {limits : Limits} {value : Int}
    (fits : (Json.integer value).digitCount ≤ limits.digits) :
    SpellsNumber limits (NumberLayout.integer value) (.integer value) := by
  cases value with
  | ofNat value =>
      have spelled := SpellsNumber.integer false (whole_decimalDigits fits)
      rwa [digitsValue_decimalDigits] at spelled
  | negSucc value =>
      have spelled := SpellsNumber.integer true (whole_decimalDigits fits)
      rwa [digitsValue_decimalDigits] at spelled

theorem hexDigit?_digitChar {digit : Nat} (small : digit < 16) :
    hexDigit? digit.digitChar = some digit := by
  have all : ∀ digit < 16, hexDigit? (Nat.digitChar digit) = some digit := by decide
  exact all digit small

theorem fourDigits_hexDigits {code : Nat} (small : code < 0x10000) :
    FourDigits (Text.Quoted.hexDigits 4 code) code := by
  have hex : FourDigits (Text.Quoted.hexDigits 4 code) _ :=
    .mk (hexDigit?_digitChar (Nat.mod_lt (code / 16 / 16 / 16) (by decide)))
      (hexDigit?_digitChar (Nat.mod_lt (code / 16 / 16) (by decide)))
      (hexDigit?_digitChar (Nat.mod_lt (code / 16) (by decide)))
      (hexDigit?_digitChar (Nat.mod_lt code (by decide)))
  have value : code = (((code / 16 / 16 / 16 % 16) * 16 + code / 16 / 16 % 16) * 16 +
      code / 16 % 16) * 16 + code % 16 := by
    omega
  rwa [← value] at hex

/-- A character as it is written, in front of other text. -/
theorem spellsString_escapeChar {text characters : List Char} (c : Char)
    (others : SpellsString text characters) :
    SpellsString (escapeChar c ++ text) (c :: characters) := by
  rw [escapeChar]
  split
  case isTrue marked =>
    simp only [Bool.or_eq_true, decide_eq_true_eq] at marked
    rcases marked with rfl | rfl <;> exact .letter (by decide) others
  case isFalse notMarked =>
    simp only [Bool.or_eq_true, decide_eq_true_eq, not_or] at notMarked
    split
    case isTrue same => exact same ▸ .letter (by decide) others
    split
    case isTrue same => exact same ▸ .letter (by decide) others
    split
    case isTrue same => exact same ▸ .letter (by decide) others
    split
    case isTrue same => exact same ▸ .letter (by decide) others
    split
    case isTrue same => exact same ▸ .letter (by decide) others
    split
    case isTrue control =>
      have hex : FourDigits (Text.Quoted.hexDigits 4 c.toNat) c.toNat :=
        fourDigits_hexDigits (by omega)
      have spelled := SpellsString.code hex (by simp only [IsHighSurrogate]; omega)
        (by simp only [IsLowSurrogate]; omega) others
      rwa [Char.ofNat_toNat] at spelled
    case isFalse notControl =>
      exact .plain notMarked.1 notMarked.2 (Nat.not_lt.mp notControl) others

theorem spellsString_escaped (characters : List Char) :
    SpellsString (characters.flatMap escapeChar) characters := by
  induction characters with
  | nil => exact .nil
  | cons c characters ih => exact spellsString_escapeChar c ih

theorem spellsKey_writeString (key : String) : SpellsKey (writeString key) key := by
  have named : SpellsKey ([] ++ '"' :: (key.toList.flatMap escapeChar ++ '"' :: []))
      (String.ofList key.toList) :=
    .mk (fun _ mem => absurd mem List.not_mem_nil) (spellsString_escaped key.toList)
      (fun _ mem => absurd mem List.not_mem_nil)
  rwa [String.ofList_toList] at named

theorem spellsValue_writeString {limits : Limits} {depth : Nat} (fits : depth ≤ limits.depth)
    (text : String) : SpellsValue limits depth (writeString text) (.string text) := by
  have spelled := SpellsValue.string fits (spellsString_escaped text.toList)
  rwa [String.ofList_toList] at spelled

/-- A value whose numbers and whose nesting keep to limits. -/
structure FitsIn (limits : Limits) (value : Json) : Prop where
  nesting : value.height ≤ limits.depth + 1
  digits : ∀ part ∈ value.parts, part.digitCount ≤ limits.digits

instance (limits : Limits) (value : Json) : Decidable (FitsIn limits value) :=
  decidable_of_iff (value.height ≤ limits.depth + 1 ∧
      ∀ part ∈ value.parts, part.digitCount ≤ limits.digits)
    ⟨fun ⟨nesting, digits⟩ => ⟨nesting, digits⟩, fun fits => ⟨fits.nesting, fits.digits⟩⟩

/-- Puts other values in the place of floating-point numbers. -/
def replaceFloat (number : Binary64 → Json) : Json → Option Json
  | .float value => some (number value)
  | _ => none

/-- What the text of a value spells if the text of each floating-point number in it spells what
`number` says. -/
def withFloats (number : Binary64 → Json) (value : Json) : Json :=
  value.rewrite (replaceFloat number)

section WithFloats

variable {number : Binary64 → Json}

theorem withFloats_array (elements : List Json) :
    (array elements).withFloats number = .array (elements.map (withFloats number)) := by
  simp [withFloats, rewrite, replaceFloat]

theorem withFloats_object (members : List (String × Json)) :
    (object members).withFloats number =
      .object (members.map fun member => (member.1, member.2.withFloats number)) := by
  simp [withFloats, rewrite, replaceFloat]

theorem withFloats_eq_self {value : Json} (integral : value.Integral) :
    value.withFloats number = value := by
  apply rewrite_eq_self
  intro part mem
  have notFloat := integral part mem
  cases part <;> first | rfl | exact absurd notFloat (by simp [isFloat])

end WithFloats

theorem spellsPadded_of_spellsValue {limits : Limits} {depth : Nat} {text : List Char}
    {value : Json} (spelled : SpellsValue limits depth text value) :
    SpellsPadded limits depth text value := by
  have padded := @SpellsPadded.mk limits depth [] text [] value
    (fun _ mem => absurd mem List.not_mem_nil) spelled (fun _ mem => absurd mem List.not_mem_nil)
  rwa [List.nil_append, List.append_nil] at padded

theorem writeElements_eq (elements : List Json) :
    writeElements elements = elements.flatMap (fun element => ',' :: element.write) ++ [']'] := by
  induction elements with
  | nil => rfl
  | cons element others ih => simp [writeElements, ih]

theorem writeMembers_eq (members : List (String × Json)) :
    writeMembers members =
      members.flatMap (fun member => ',' :: (writeString member.1 ++ ':' :: member.2.write)) ++
        ['\x7d'] := by
  induction members with
  | nil => rfl
  | cons member others ih => simp [writeMembers, ih]

section Write

variable {limits : Limits} {depth : Nat} {meaning : Json → Json}

/-- Elements spell an array if each of them spells what it should. -/
theorem spellsElements_write {first : Json} {others : List Json}
    (each : ∀ element ∈ first :: others, SpellsValue limits depth element.write (meaning element)) :
    SpellsElements limits depth
      (first.write ++ others.flatMap (fun element => ',' :: element.write))
      ((first :: others).map meaning) := by
  induction others generalizing first with
  | nil =>
      rw [List.flatMap_nil, List.append_nil]
      exact .last (spellsPadded_of_spellsValue (each first (List.mem_cons_self ..)))
  | cons second others ih =>
      rw [List.flatMap_cons, List.cons_append]
      exact .more (spellsPadded_of_spellsValue (each first (List.mem_cons_self ..)))
        (ih fun element mem => each element (List.mem_cons_of_mem _ mem))

/-- Members spell an object if the value of each of them spells what it should. -/
theorem spellsMembers_write {first : String × Json} {others : List (String × Json)}
    (each : ∀ member ∈ first :: others,
      SpellsValue limits depth member.2.write (meaning member.2)) :
    SpellsMembers limits depth
      (writeString first.1 ++ ':' :: (first.2.write ++ others.flatMap (fun member =>
        ',' :: (writeString member.1 ++ ':' :: member.2.write))))
      ((first :: others).map fun member => (member.1, meaning member.2)) := by
  induction others generalizing first with
  | nil =>
      rw [List.flatMap_nil, List.append_nil]
      exact .last (spellsKey_writeString first.1)
        (spellsPadded_of_spellsValue (each first (List.mem_cons_self ..)))
  | cons second others ih =>
      rw [List.flatMap_cons, List.cons_append, List.append_assoc, List.cons_append]
      exact .more (spellsKey_writeString first.1)
        (spellsPadded_of_spellsValue (each first (List.mem_cons_self ..)))
        (ih fun member mem => each member (List.mem_cons_of_mem _ mem))

end Write

theorem depth_le_of_nesting {limits : Limits} {depth : Nat} {value : Json}
    (nesting : value.height + depth ≤ limits.depth + 1) : depth ≤ limits.depth := by
  have := value.one_le_height
  omega

/-- The text of a value whose keys are distinct, in so many containers. -/
theorem spellsValue_write {limits : Limits} {number : Binary64 → Json} {value : Json}
    (distinct : value.DistinctKeys) (digits : ∀ part ∈ value.parts, part.digitCount ≤ limits.digits)
    (floats : ∀ part ∈ value.parts, ∀ x, part = .float x → ∀ depth ≤ limits.depth,
      SpellsValue limits depth (outputLayout.float x) (number x))
    {depth : Nat} (nesting : value.height + depth ≤ limits.depth + 1) :
    SpellsValue limits depth value.write (value.withFloats number) := by
  induction value using induct generalizing depth with
  | null => exact .word (depth_le_of_nesting nesting) (.head _)
  | bool value =>
      cases value with
      | true => exact .word (depth_le_of_nesting nesting) (.tail _ (.head _))
      | false => exact .word (depth_le_of_nesting nesting) (.tail _ (.tail _ (.head _)))
  | integer value =>
      exact .number (depth_le_of_nesting nesting)
        (spellsNumber_integer (digits _ (self_mem_parts _)))
  | float value =>
      exact floats _ (self_mem_parts _) value rfl depth (depth_le_of_nesting nesting)
  | string text => exact spellsValue_writeString (depth_le_of_nesting nesting) text
  | array elements ih =>
      rw [height] at nesting
      rw [withFloats_array]
      cases elements with
      | nil => exact .emptyArray (by omega) (fun _ mem => absurd mem List.not_mem_nil)
      | cons first others =>
          rw [write, writeElements_eq, ← List.append_assoc]
          apply SpellsValue.array (by omega)
          apply spellsElements_write
          intro element mem
          have inside : element.height ≤ heightOfElements (first :: others) :=
            heightOfElements_le_iff.mp (Nat.le_refl _) element mem
          exact ih element mem ((forall_parts_array.mp distinct).2 element mem)
            ((forall_parts_array.mp digits).2 element mem)
            ((forall_parts_array.mp floats).2 element mem) (by omega)
  | object members ih =>
      rw [height] at nesting
      rw [withFloats_object]
      cases members with
      | nil => exact .emptyObject (by omega) (fun _ mem => absurd mem List.not_mem_nil)
      | cons first others =>
          have own : (Keyed.keys (first :: others)).Nodup := (forall_parts_object.mp distinct).1
          have each : ∀ member ∈ first :: others,
              SpellsValue limits (depth + 1) member.2.write (member.2.withFloats number) := by
            intro member mem
            have inside : member.2.height ≤ heightOfMembers (first :: others) :=
              heightOfMembers_le_iff.mp (Nat.le_refl _) member mem
            exact ih member mem ((forall_parts_object.mp distinct).2 member mem)
              ((forall_parts_object.mp digits).2 member mem)
              ((forall_parts_object.mp floats).2 member mem) (by omega)
          have spelled := SpellsValue.object (by omega) (spellsMembers_write each)
          rw [Keyed.ofPairs_eq_self (by rwa [Keyed.keys_map])] at spelled
          simpa [write, writeMembers_eq] using spelled

theorem spellsValue_write_of_integral {limits : Limits} {value : Json}
    (distinct : value.DistinctKeys) (integral : value.Integral) (fits : value.FitsIn limits) :
    SpellsValue limits 0 value.write value := by
  have spelled : SpellsValue limits 0 value.write (value.withFloats .float) := by
    apply spellsValue_write distinct fits.digits _ fits.nesting
    rintro _ mem x rfl
    exact absurd (integral _ mem) (by simp [isFloat])
  rwa [withFloats_eq_self integral] at spelled

/-- The text of a value without floating-point numbers spells the value. -/
theorem spells_write {limits : Limits} {value : Json} (distinct : value.DistinctKeys)
    (integral : value.Integral) (fits : value.FitsIn limits) : Spells limits value.write value :=
  spellsPadded_of_spellsValue (spellsValue_write_of_integral distinct integral fits)

end DocHighlight.Json
