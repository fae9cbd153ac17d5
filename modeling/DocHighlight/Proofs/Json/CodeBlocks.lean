import DocHighlight.CodeBlocks
import DocHighlight.Proofs.Json.Meaning

/-!
# Code blocks in JSON

How code is highlighted in a JSON value of which nothing else is known: an object that looks like a
code block in a supported language is replaced, wherever it stands. No array, string or other scalar
is replaced or comes from a replacement, so rewriting leaves the form of every value as it is. This
is what the proofs stand on: an object whose members were rewritten looks like a code block exactly
if it did so before, and so nothing is left to be replaced.
-/

namespace DocHighlight.Json

def member? (key : String) : Json → Option Json
  | .object members => Keyed.get? members key
  | _ => none

def element? (index : Nat) : Json → Option Json
  | .array elements => elements[index]?
  | _ => none

def text? : Json → Option String
  | .string text => some text
  | _ => none

/-- Changes the value of a member of an object; a value without it stays as it is. -/
def mapMember (key : String) (change : Json → Json) : Json → Json
  | .object members =>
      .object (members.map fun member =>
        (member.1, if member.1 = key then change member.2 else member.2))
  | value => value

/-- The language and the text of an object that is named like a code block and has a first class. -/
def declaredCode? (value : Json) : Option (String × String) :=
  if (value.member? "t").bind text? = some "CodeBlock" then do
    let content ← value.member? "c"
    let classes ← (← content.element? 0).element? 1
    let language ← (← classes.element? 0).text?
    let text ← (← content.element? 1).text?
    return (language, text)
  else none

/-- What a value is replaced by: a code block in a supported language by its raw markup. -/
def highlighted? (highlighter : Highlighter) (value : Json) : Option Json := do
  let (language, text) ← value.declaredCode?
  let markup ← highlighter language text
  return .object [("t", .string "RawBlock"),
    ("c", .array [.string "html", .string (CodeBlocks.wrap language markup)])]

/-- Highlights all code blocks in a value, at any depth. -/
def highlight (highlighter : Highlighter) (value : Json) : Json :=
  value.rewrite (highlighted? highlighter)

/-- A change that leaves strings alone, changes arrays element by element, and makes no string and
no array from anything else. -/
structure KeepsForm (change : Json → Json) : Prop where
  textEq : ∀ value, (change value).text? = value.text?
  elementEq : ∀ index value, (change value).element? index = (value.element? index).map change

section KeepsForm

variable {change : Json → Json}

theorem declaredCode?_map (keeps : KeepsForm change) (members : List (String × Json)) :
    (object (members.map fun member => (member.1, change member.2))).declaredCode? =
      (object members).declaredCode? := by
  simp only [declaredCode?, member?, Keyed.get?_map, Option.bind_eq_bind, Option.bind_map,
    Function.comp_def, keeps.textEq, keeps.elementEq]
  rfl

theorem highlighted?_map (keeps : KeepsForm change) (highlighter : Highlighter)
    (members : List (String × Json)) :
    highlighted? highlighter (object (members.map fun member => (member.1, change member.2))) =
      highlighted? highlighter (object members) := by
  rw [highlighted?, highlighted?, declaredCode?_map keeps]

end KeepsForm

section Highlight

variable {highlighter : Highlighter}

theorem highlight_array (elements : List Json) :
    (array elements).highlight highlighter = .array (elements.map (highlight highlighter)) := by
  simp [highlight, rewrite, highlighted?, declaredCode?, member?]

theorem highlight_object {members : List (String × Json)}
    (kept : highlighted? highlighter (object members) = none) :
    (object members).highlight highlighter =
      .object (members.map fun member => (member.1, member.2.highlight highlighter)) := by
  simp [highlight, rewrite, kept]

/-- A replacement is one object, whatever it holds. -/
theorem exists_of_highlighted? {value replaced : Json}
    (found : highlighted? highlighter value = some replaced) :
    ∃ markup, replaced = .object [("t", .string "RawBlock"),
      ("c", .array [.string "html", .string markup])] := by
  simp only [highlighted?, Option.bind_eq_bind, Option.bind_eq_some_iff] at found
  rcases found with ⟨_, -, markup, -, same⟩
  cases same
  exact ⟨_, rfl⟩

/-- An object is either replaced, or kept with its members highlighted; it stays an object. -/
theorem exists_highlight_object (members : List (String × Json)) :
    ∃ entries, (object members).highlight highlighter = .object entries := by
  cases found : highlighted? highlighter (object members) with
  | none => exact ⟨_, highlight_object found⟩
  | some replaced =>
      rcases exists_of_highlighted? found with ⟨markup, rfl⟩
      exact ⟨_, rewrite_of_some found⟩

theorem keepsForm_highlight : KeepsForm (highlight highlighter) where
  textEq value := by
    cases value with
    | array elements => rw [highlight_array]; rfl
    | object members =>
        rcases @exists_highlight_object highlighter members with ⟨entries, same⟩
        rw [same]
        rfl
    | _ => rfl
  elementEq index value := by
    cases value with
    | array elements => rw [highlight_array, element?, element?, List.getElem?_map]
    | object members =>
        rcases @exists_highlight_object highlighter members with ⟨entries, same⟩
        rw [same]
        rfl
    | _ => rfl

/-- Nothing is left to be replaced. -/
theorem highlighted?_of_mem_highlight (value : Json) :
    ∀ part ∈ (value.highlight highlighter).parts, highlighted? highlighter part = none := by
  induction value using induct with
  | array elements ih =>
      rw [highlight_array, forall_parts_array, List.forall_mem_map]
      exact ⟨rfl, ih⟩
  | object members ih =>
      cases found : highlighted? highlighter (object members) with
      | none =>
          -- With its members rewritten the object still looks as it did, so it is not replaced now.
          rw [highlight_object found, forall_parts_object, List.forall_mem_map,
            highlighted?_map keepsForm_highlight]
          exact ⟨found, ih⟩
      | some replaced =>
          rcases exists_of_highlighted? found with ⟨markup, rfl⟩
          rw [highlight, rewrite_of_some found, forall_parts_object]
          refine ⟨rfl, ?_⟩
          simp [parts, highlighted?, declaredCode?, member?]
  | _ =>
      intro part mem
      rw [List.mem_singleton.mp mem]
      rfl

/-- What stands in a value is less deep than the value. -/
theorem height_lt_of_member? {key : String} {value member : Json}
    (found : value.member? key = some member) : member.height + 1 ≤ value.height := by
  cases value with
  | object members => exact height_le_of_mem_members (Keyed.mem_of_get? found)
  | _ => cases found

theorem height_lt_of_element? {index : Nat} {value element : Json}
    (found : value.element? index = some element) : element.height + 1 ≤ value.height := by
  cases value with
  | array elements => exact height_le_of_mem_elements (List.mem_of_getElem? found)
  | _ => cases found

/-- A code block is at least as deep as what replaces it. -/
theorem height_le_of_highlighted? {value replaced : Json}
    (found : highlighted? highlighter value = some replaced) : replaced.height ≤ value.height := by
  rcases exists_of_highlighted? found with ⟨markup, rfl⟩
  simp only [highlighted?, declaredCode?, Option.bind_eq_bind, Option.bind_eq_some_iff,
    Option.ite_none_right_eq_some] at found
  rcases found with ⟨_, ⟨-, content, hasContent, attributes, hasAttributes, -⟩, -⟩
  have inside := height_lt_of_member? hasContent
  have deeper := height_lt_of_element? hasAttributes
  have least := attributes.one_le_height
  have flat : (object [("t", .string "RawBlock"),
      ("c", .array [.string "html", .string markup])]).height = 3 := rfl
  omega

theorem height_highlight_le (value : Json) :
    (value.highlight highlighter).height ≤ value.height := by
  induction value using induct with
  | array elements ih =>
      rw [highlight_array, height.eq_def (array elements), height_array_le_iff, List.forall_mem_map]
      intro element mem
      exact Nat.le_trans (ih element mem) (heightOfElements_le_iff.mp (Nat.le_refl _) element mem)
  | object members ih =>
      cases found : highlighted? highlighter (object members) with
      | none =>
          rw [highlight_object found, height.eq_def (object members), height_object_le_iff,
            List.forall_mem_map]
          intro member mem
          exact Nat.le_trans (ih member mem) (heightOfMembers_le_iff.mp (Nat.le_refl _) member mem)
      | some replaced =>
          rw [highlight, rewrite_of_some found]
          exact height_le_of_highlighted? found
  | _ => exact Nat.le_refl _

theorem height_mapMember_le (key : String) (value : Json) :
    (value.mapMember key (highlight highlighter)).height ≤ value.height := by
  cases value with
  | object members =>
      rw [mapMember, height.eq_def (object members), height_object_le_iff, List.forall_mem_map]
      intro member mem
      have inside := heightOfMembers_le_iff.mp (Nat.le_refl _) member mem
      simp only
      split
      · exact Nat.le_trans (height_highlight_le _) inside
      · exact inside
  | _ => exact Nat.le_refl _

section OfNumbers

variable {p : Json → Prop} (numbers : OfNumbers p)

include numbers

/-- Highlighting makes no numbers. -/
theorem forall_parts_highlight {value : Json} (all : ∀ part ∈ value.parts, p part) :
    ∀ part ∈ (value.highlight highlighter).parts, p part := by
  induction value using induct with
  | array elements ih =>
      have each := numbers.parts_array.mp all
      rw [highlight_array, numbers.parts_array, List.forall_mem_map]
      exact fun element mem => ih element mem (each element mem)
  | object members ih =>
      have each := numbers.parts_object.mp all
      cases found : highlighted? highlighter (object members) with
      | none =>
          rw [highlight_object found, numbers.parts_object, List.forall_mem_map]
          exact fun member mem => ih member mem (each member mem)
      | some replaced =>
          rw [highlight, rewrite_of_some found]
          rcases exists_of_highlighted? found with ⟨markup, rfl⟩
          simp only [numbers.parts_object, numbers.parts_array, List.forall_mem_cons,
            List.not_mem_nil, false_imp_iff, implies_true, and_true]
          exact ⟨numbers.parts_string _, numbers.parts_string _, numbers.parts_string _⟩
  | _ => exact all

theorem forall_parts_mapMember (key : String) {value : Json} (all : ∀ part ∈ value.parts, p part) :
    ∀ part ∈ (value.mapMember key (highlight highlighter)).parts, p part := by
  cases value with
  | object members =>
      have each := numbers.parts_object.mp all
      rw [mapMember, numbers.parts_object, List.forall_mem_map]
      intro member mem
      simp only
      split
      · exact forall_parts_highlight numbers (each member mem)
      · exact each member mem
  | _ => exact all

end OfNumbers

namespace IsWrittenFloat

variable {value : Json} (written : IsWrittenFloat value)

include written

theorem text?_eq : value.text? = none := by
  rcases written with rfl | ⟨_, rfl⟩ <;> rfl

theorem element?_eq (index : Nat) : value.element? index = none := by
  rcases written with rfl | ⟨_, rfl⟩ <;> rfl

theorem highlight_eq : value.highlight highlighter = value := by
  rcases written with rfl | ⟨_, rfl⟩ <;> rfl

theorem mapMember_eq {change : Json → Json} (key : String) :
    value.mapMember key change = value := by
  rcases written with rfl | ⟨_, rfl⟩ <;> rfl

end IsWrittenFloat

section WithFloats

variable {number : Binary64 → Json} (written : ∀ x, IsWrittenFloat (number x))

include written

theorem keepsForm_withFloats : KeepsForm (withFloats number) where
  textEq value := by
    cases value with
    | float x => exact (written x).text?_eq
    | array elements => rw [withFloats_array]; rfl
    | object members => rw [withFloats_object]; rfl
    | _ => rfl
  elementEq index value := by
    cases value with
    | float x => exact (written x).element?_eq index
    | array elements => rw [withFloats_array, element?, element?, List.getElem?_map]
    | object members => rw [withFloats_object]; rfl
    | _ => rfl

/-- It makes no difference whether code is highlighted before the floating-point numbers are written
or after they are read. -/
theorem withFloats_highlight (value : Json) :
    (value.highlight highlighter).withFloats number =
      (value.withFloats number).highlight highlighter := by
  induction value using induct with
  | float x => exact (written x).highlight_eq.symm
  | array elements ih =>
      rw [highlight_array, withFloats_array, withFloats_array, highlight_array, List.map_map,
        List.map_map]
      exact congrArg array (List.map_congr_left ih)
  | object members ih =>
      have same := highlighted?_map (keepsForm_withFloats written) highlighter members
      rw [withFloats_object]
      cases found : highlighted? highlighter (object members) with
      | none =>
          rw [found] at same
          rw [highlight_object found, highlight_object same, withFloats_object, List.map_map,
            List.map_map]
          apply congrArg object
          exact List.map_congr_left fun member mem => congrArg (Prod.mk member.1) (ih member mem)
      | some replaced =>
          rw [found] at same
          rw [highlight, highlight, rewrite_of_some found, rewrite_of_some same]
          apply withFloats_eq_self
          rcases exists_of_highlighted? found with ⟨markup, rfl⟩
          simp [Integral, parts, isFloat]
  | _ => rfl

theorem withFloats_mapMember (key : String) (value : Json) :
    (value.mapMember key (highlight highlighter)).withFloats number =
      (value.withFloats number).mapMember key (highlight highlighter) := by
  cases value with
  | float x => exact ((written x).mapMember_eq key).symm
  | array elements => simp only [mapMember, withFloats_array]
  | object members =>
      rw [mapMember, withFloats_object, withFloats_object, mapMember, List.map_map, List.map_map]
      apply congrArg object
      apply List.map_congr_left
      intro member _
      simp only [Function.comp_apply]
      split
      · rw [withFloats_highlight written]
      · rfl
  | _ => rfl

end WithFloats

end Highlight

end DocHighlight.Json
