import DocHighlight.Json.Value
import DocHighlight.Keyed

/-!
# All through a JSON value

What is said of JSON values without regard to what they mean: the values that stand in a value at
any depth, replacing some of them from the outside in, and changing all objects from the inside out.
Proofs about these go by the induction principle below, which hands the elements of an array and the
values of an object over as members of their lists.
-/

namespace DocHighlight.Json

/-- Induction on a value: arrays by their elements, objects by the values of their members. -/
@[elab_as_elim]
theorem induct {motive : Json → Prop} (null : motive .null) (bool : ∀ value, motive (.bool value))
    (integer : ∀ value, motive (.integer value)) (float : ∀ value, motive (.float value))
    (string : ∀ value, motive (.string value))
    (array : ∀ elements, (∀ element ∈ elements, motive element) → motive (.array elements))
    (object : ∀ members, (∀ member ∈ members, motive member.2) → motive (.object members))
    (value : Json) : motive value :=
  @Json.rec motive (fun elements => ∀ element ∈ elements, motive element)
    (fun members => ∀ member ∈ members, motive member.2) (fun member => motive member.2)
    null bool integer float string array object
    (fun _ mem => absurd mem List.not_mem_nil)
    (fun _ _ first others => List.forall_mem_cons.mpr ⟨first, others⟩)
    (fun _ mem => absurd mem List.not_mem_nil)
    (fun _ _ first others => List.forall_mem_cons.mpr ⟨first, others⟩)
    (fun _ _ value => value) value

mutual

/-- The values that stand in a value at any depth, the value itself first. -/
def parts : Json → List Json
  | .array elements => .array elements :: partsOfElements elements
  | .object members => .object members :: partsOfMembers members
  | value => [value]

def partsOfElements : List Json → List Json
  | [] => []
  | element :: others => parts element ++ partsOfElements others

def partsOfMembers : List (String × Json) → List Json
  | [] => []
  | (_, value) :: others => parts value ++ partsOfMembers others

end

@[simp]
theorem mem_partsOfElements {part : Json} {elements : List Json} :
    part ∈ partsOfElements elements ↔ ∃ element ∈ elements, part ∈ element.parts := by
  induction elements with
  | nil => simp [partsOfElements]
  | cons element others ih => simp [partsOfElements, ih]

@[simp]
theorem mem_partsOfMembers {part : Json} {members : List (String × Json)} :
    part ∈ partsOfMembers members ↔ ∃ member ∈ members, part ∈ member.2.parts := by
  induction members with
  | nil => simp [partsOfMembers]
  | cons member others ih => simp [partsOfMembers, ih]

theorem self_mem_parts (value : Json) : value ∈ value.parts := by
  cases value <;> simp [parts]

/-- What is said of all values in an array is said of it and of all values in its elements. -/
theorem forall_parts_array {p : Json → Prop} {elements : List Json} :
    (∀ part ∈ (array elements).parts, p part) ↔
      p (.array elements) ∧ ∀ element ∈ elements, ∀ part ∈ element.parts, p part := by
  simp only [parts, List.forall_mem_cons, mem_partsOfElements, forall_exists_index, and_imp]
  exact and_congr_right' ⟨fun all element mem part inner => all part element mem inner,
    fun all part element mem inner => all element mem part inner⟩

/-- What is said of all values in an object is said of it and of all values in its members. -/
theorem forall_parts_object {p : Json → Prop} {members : List (String × Json)} :
    (∀ part ∈ (object members).parts, p part) ↔
      p (.object members) ∧ ∀ member ∈ members, ∀ part ∈ member.2.parts, p part := by
  simp only [parts, List.forall_mem_cons, mem_partsOfMembers, forall_exists_index, and_imp]
  exact and_congr_right' ⟨fun all member mem part inner => all part member mem inner,
    fun all part member mem inner => all member mem part inner⟩

/-- The keys of an object, and none of any other value. -/
def ownKeys : Json → List String
  | .object members => Keyed.keys members
  | _ => []

/-- No object in a value gives a key twice. -/
def DistinctKeys (value : Json) : Prop :=
  ∀ part ∈ value.parts, part.ownKeys.Nodup

instance (value : Json) : Decidable value.DistinctKeys :=
  inferInstanceAs (Decidable (∀ part ∈ value.parts, _))

theorem distinctKeys_of_scalar {value : Json} (alone : value.parts = [value])
    (noKeys : value.ownKeys = []) : value.DistinctKeys := by
  intro part mem
  rw [alone, List.mem_singleton] at mem
  rw [mem, noKeys]
  exact List.nodup_nil

theorem distinctKeys_array {elements : List Json} :
    (array elements).DistinctKeys ↔ ∀ element ∈ elements, element.DistinctKeys := by
  rw [DistinctKeys, forall_parts_array]
  exact and_iff_right List.nodup_nil

theorem distinctKeys_object {members : List (String × Json)} :
    (object members).DistinctKeys ↔
      (Keyed.keys members).Nodup ∧ ∀ member ∈ members, member.2.DistinctKeys := by
  rw [DistinctKeys, forall_parts_object]
  rfl

/-- Whether a value is a floating-point number. -/
def isFloat : Json → Bool
  | .float _ => true
  | _ => false

/-- All numbers in a value are integers. -/
def Integral (value : Json) : Prop :=
  ∀ part ∈ value.parts, part.isFloat = false

instance (value : Json) : Decidable value.Integral :=
  inferInstanceAs (Decidable (∀ part ∈ value.parts, _))

/-- A property of values that nothing but a number can lack. -/
structure OfNumbers (p : Json → Prop) : Prop where
  null : p .null
  string : ∀ text, p (.string text)
  array : ∀ elements, p (.array elements)
  object : ∀ members, p (.object members)

theorem ofNumbers_isFloat : OfNumbers fun part => part.isFloat = false where
  null := rfl
  string _ := rfl
  array _ := rfl
  object _ := rfl

section OfNumbers

variable {p : Json → Prop} (numbers : OfNumbers p)

include numbers

theorem OfNumbers.parts_null : ∀ part ∈ Json.null.parts, p part := by
  intro part mem
  rw [List.mem_singleton.mp mem]
  exact numbers.null

theorem OfNumbers.parts_string (text : String) : ∀ part ∈ (Json.string text).parts, p part := by
  intro part mem
  rw [List.mem_singleton.mp mem]
  exact numbers.string text

theorem OfNumbers.parts_array {elements : List Json} :
    (∀ part ∈ (Json.array elements).parts, p part) ↔
      ∀ element ∈ elements, ∀ part ∈ element.parts, p part := by
  rw [forall_parts_array]
  exact and_iff_right (numbers.array elements)

theorem OfNumbers.parts_object {members : List (String × Json)} :
    (∀ part ∈ (Json.object members).parts, p part) ↔
      ∀ member ∈ members, ∀ part ∈ member.2.parts, p part := by
  rw [forall_parts_object]
  exact and_iff_right (numbers.object members)

theorem OfNumbers.parts_perm {members entries : List (String × Json)}
    (perm : members.Perm entries) :
    (∀ part ∈ (Json.object members).parts, p part) ↔
      ∀ part ∈ (Json.object entries).parts, p part := by
  rw [numbers.parts_object, numbers.parts_object]
  simp only [perm.mem_iff]

end OfNumbers

theorem one_le_height (value : Json) : 1 ≤ value.height := by
  cases value <;> simp [height]

theorem heightOfElements_le_iff {elements : List Json} {bound : Nat} :
    heightOfElements elements ≤ bound ↔ ∀ element ∈ elements, element.height ≤ bound := by
  induction elements with
  | nil => simp [heightOfElements]
  | cons element others ih => rw [heightOfElements, Nat.max_le, ih, List.forall_mem_cons]

theorem heightOfMembers_le_iff {members : List (String × Json)} {bound : Nat} :
    heightOfMembers members ≤ bound ↔ ∀ member ∈ members, member.2.height ≤ bound := by
  induction members with
  | nil => simp [heightOfMembers]
  | cons member others ih => rw [heightOfMembers, Nat.max_le, ih, List.forall_mem_cons]

section Perm

variable {members entries : List (String × Json)}

theorem height_perm (perm : members.Perm entries) :
    (object members).height = (object entries).height := by
  have same : ∀ bound, heightOfMembers members ≤ bound ↔ heightOfMembers entries ≤ bound := by
    intro bound
    simp only [heightOfMembers_le_iff, perm.mem_iff]
  rw [height, height, Nat.le_antisymm ((same _).mpr (Nat.le_refl _)) ((same _).mp (Nat.le_refl _))]

end Perm

theorem height_array_le_iff {elements : List Json} {bound : Nat} :
    (array elements).height ≤ bound + 1 ↔ ∀ element ∈ elements, element.height ≤ bound := by
  rw [height, Nat.add_le_add_iff_right, heightOfElements_le_iff]

theorem height_object_le_iff {members : List (String × Json)} {bound : Nat} :
    (object members).height ≤ bound + 1 ↔ ∀ member ∈ members, member.2.height ≤ bound := by
  rw [height, Nat.add_le_add_iff_right, heightOfMembers_le_iff]

theorem height_cons (first : Json) (others : List Json) :
    (array (first :: others)).height = max (first.height + 1) (array others).height := by
  rw [height, height, heightOfElements]
  omega

theorem height_le_of_mem_elements {elements : List Json} {element : Json}
    (mem : element ∈ elements) : element.height + 1 ≤ (array elements).height := by
  have inside := heightOfElements_le_iff.mp (Nat.le_refl _) element mem
  rw [height]
  omega

theorem height_le_of_mem_members {members : List (String × Json)} {member : String × Json}
    (mem : member ∈ members) : member.2.height + 1 ≤ (object members).height := by
  have inside := heightOfMembers_le_iff.mp (Nat.le_refl _) member mem
  rw [height]
  omega

/-- An array is as deep as before if each of its elements is. -/
theorem height_array_map {change : Json → Json} {elements : List Json}
    (same : ∀ element ∈ elements, (change element).height = element.height) :
    (array (elements.map change)).height = (array elements).height := by
  have each : ∀ bound,
      heightOfElements (elements.map change) ≤ bound ↔ heightOfElements elements ≤ bound := by
    intro bound
    simp only [heightOfElements_le_iff, List.forall_mem_map]
    exact forall₂_congr fun element mem => by rw [same element mem]
  rw [height, height, Nat.le_antisymm ((each _).mpr (Nat.le_refl _)) ((each _).mp (Nat.le_refl _))]

/-- An object is as deep as before if the value of each of its members is. -/
theorem height_object_map {change : Json → Json} {members : List (String × Json)}
    (same : ∀ member ∈ members, (change member.2).height = member.2.height) :
    (object (members.map fun member => (member.1, change member.2))).height =
      (object members).height := by
  have each : ∀ bound, heightOfMembers (members.map fun member => (member.1, change member.2)) ≤
      bound ↔ heightOfMembers members ≤ bound := by
    intro bound
    simp only [heightOfMembers_le_iff, List.forall_mem_map]
    exact forall₂_congr fun member mem => by rw [same member mem]
  rw [height, height, Nat.le_antisymm ((each _).mpr (Nat.le_refl _)) ((each _).mp (Nat.le_refl _))]

mutual

/-- Replaces what is to be replaced, from the outside in: what stands in a replaced value is gone
with it, and a replacement is not looked into. All else stays in its place. -/
def rewrite (replacement? : Json → Option Json) : Json → Json
  | .array elements =>
      (replacement? (.array elements)).getD (.array (rewriteElements replacement? elements))
  | .object members =>
      (replacement? (.object members)).getD (.object (rewriteMembers replacement? members))
  | value => (replacement? value).getD value

def rewriteElements (replacement? : Json → Option Json) : List Json → List Json
  | [] => []
  | element :: others => rewrite replacement? element :: rewriteElements replacement? others

def rewriteMembers (replacement? : Json → Option Json) :
    List (String × Json) → List (String × Json)
  | [] => []
  | (key, value) :: others =>
      (key, rewrite replacement? value) :: rewriteMembers replacement? others

end

section Rewrite

variable {replacement? : Json → Option Json}

@[simp]
theorem rewriteElements_eq_map (elements : List Json) :
    rewriteElements replacement? elements = elements.map (rewrite replacement?) := by
  induction elements with
  | nil => rfl
  | cons element others ih => simp [rewriteElements, ih]

@[simp]
theorem rewriteMembers_eq_map (members : List (String × Json)) :
    rewriteMembers replacement? members =
      members.map fun member => (member.1, member.2.rewrite replacement?) := by
  induction members with
  | nil => rfl
  | cons member others ih => simp [rewriteMembers, ih]

theorem rewrite_of_some {value replaced : Json} (found : replacement? value = some replaced) :
    value.rewrite replacement? = replaced := by
  cases value <;> simp [rewrite, found]

/-- A value in which nothing is to be replaced stays as it is. -/
theorem rewrite_eq_self {value : Json} (none : ∀ part ∈ value.parts, replacement? part = none) :
    value.rewrite replacement? = value := by
  induction value using induct with
  | array elements ih =>
      rcases forall_parts_array.mp none with ⟨here, inside⟩
      have same : elements.map (rewrite replacement?) = elements.map id :=
        List.map_congr_left fun element mem => ih element mem (inside element mem)
      simp [rewrite, here, same]
  | object members ih =>
      rcases forall_parts_object.mp none with ⟨here, inside⟩
      have same : members.map (fun member => (member.1, member.2.rewrite replacement?)) =
          members.map id :=
        List.map_congr_left fun member mem =>
          congrArg (Prod.mk member.1) (ih member mem (inside member mem))
      simp [rewrite, here, same]
  | _ => simp [rewrite, none _ (self_mem_parts _)]

end Rewrite

def isObject : Json → Bool
  | .object _ => true
  | _ => false

mutual

/-- Changes every object, from the inside out: `change` gets the members with their values changed
already. -/
def mapObjects (change : List (String × Json) → Json) : Json → Json
  | .array elements => .array (mapObjectsOfElements change elements)
  | .object members => change (mapObjectsOfMembers change members)
  | value => value

def mapObjectsOfElements (change : List (String × Json) → Json) : List Json → List Json
  | [] => []
  | element :: others => mapObjects change element :: mapObjectsOfElements change others

def mapObjectsOfMembers (change : List (String × Json) → Json) :
    List (String × Json) → List (String × Json)
  | [] => []
  | (key, value) :: others => (key, mapObjects change value) :: mapObjectsOfMembers change others

end

section MapObjects

variable {change : List (String × Json) → Json}

@[simp]
theorem mapObjectsOfElements_eq_map (elements : List Json) :
    mapObjectsOfElements change elements = elements.map (mapObjects change) := by
  induction elements with
  | nil => rfl
  | cons element others ih => simp [mapObjectsOfElements, ih]

@[simp]
theorem mapObjectsOfMembers_eq_map (members : List (String × Json)) :
    mapObjectsOfMembers change members =
      members.map fun member => (member.1, member.2.mapObjects change) := by
  induction members with
  | nil => rfl
  | cons member others ih => simp [mapObjectsOfMembers, ih]

/-- A value in which there are no objects stays as it is. -/
theorem mapObjects_eq_self {value : Json} (none : ∀ part ∈ value.parts, part.isObject = false) :
    value.mapObjects change = value := by
  induction value using induct with
  | array elements ih =>
      have inside := (forall_parts_array.mp none).2
      have same : elements.map (mapObjects change) = elements.map id :=
        List.map_congr_left fun element mem => ih element mem (inside element mem)
      rw [mapObjects, mapObjectsOfElements_eq_map, same, List.map_id]
  | object members ih => cases none _ (self_mem_parts _)
  | _ => rfl

end MapObjects

end DocHighlight.Json
