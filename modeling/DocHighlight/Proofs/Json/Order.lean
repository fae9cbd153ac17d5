import DocHighlight.Proofs.Json.Traversal

/-!
# Up to the order of members

Two JSON values with distinct keys are the same up to the order of members, at whatever depth, if
they are the same once the members of all their objects are sorted by their keys.
-/

namespace DocHighlight.Json

/-- Members in the order of their keys. -/
def sortMembers (members : List (String × Json)) : List (String × Json) :=
  members.mergeSort fun first second => decide (first.1 ≤ second.1)

/-- A value with the members of all objects in it in the order of their keys. -/
def sorted (value : Json) : Json :=
  value.mapObjects fun members => .object (sortMembers members)

/-- A member with its value sorted. -/
def sortedMember (member : String × Json) : String × Json :=
  (member.1, member.2.sorted)

@[simp]
theorem sorted_array (elements : List Json) :
    (array elements).sorted = .array (elements.map sorted) := by
  simp only [sorted, mapObjects, mapObjectsOfElements_eq_map]
  rfl

theorem sorted_object (members : List (String × Json)) :
    (object members).sorted = .object (sortMembers (members.map sortedMember)) := by
  simp only [sorted, mapObjects, mapObjectsOfMembers_eq_map]
  rfl

theorem keys_map_sortedMember (members : List (String × Json)) :
    Keyed.keys (members.map sortedMember) = Keyed.keys members := by
  simp [Keyed.keys, sortedMember, Function.comp_def]

theorem get?_map_sortedMember (members : List (String × Json)) (key : String) :
    Keyed.get? (members.map sortedMember) key = (Keyed.get? members key).map sorted :=
  Keyed.get?_map members sorted key

theorem sortMembers_perm (members : List (String × Json)) : (sortMembers members).Perm members :=
  List.mergeSort_perm members _

theorem sortMembers_pairwise (members : List (String × Json)) :
    (sortMembers members).Pairwise fun first second => first.1 ≤ second.1 := by
  have ordered : (sortMembers members).Pairwise fun first second =>
      decide (first.1 ≤ second.1) = true := by
    apply List.pairwise_mergeSort
    · intro first second third below above
      rw [decide_eq_true_eq] at below above ⊢
      exact String.le_trans below above
    · intro first second
      rw [Bool.or_eq_true, decide_eq_true_eq, decide_eq_true_eq]
      exact String.le_total first.1 second.1
  exact ordered.imp of_decide_eq_true

/-- Sorting forgets the order that members had. -/
theorem sortMembers_eq_iff {members entries : List (String × Json)}
    (distinct : (Keyed.keys members).Nodup) :
    sortMembers members = sortMembers entries ↔ members.Perm entries := by
  constructor
  · intro same
    exact (sortMembers_perm members).symm.trans (same ▸ sortMembers_perm entries)
  · intro perm
    have all := (sortMembers_perm members).trans (perm.trans (sortMembers_perm entries).symm)
    apply all.eq_of_pairwise _ (sortMembers_pairwise members) (sortMembers_pairwise entries)
    rintro ⟨key, value⟩ ⟨other, second⟩ memFirst memSecond below above
    have same : key = other := String.le_antisymm below above
    subst same
    have found := Keyed.get?_of_mem distinct ((sortMembers_perm members).mem_iff.mp memFirst)
    have again := Keyed.get?_of_mem distinct
      (perm.mem_iff.mpr ((sortMembers_perm entries).mem_iff.mp memSecond))
    rw [found] at again
    cases again
    rfl

section Objects

variable {members entries : List (String × Json)}

theorem sorted_object_eq_iff_perm (distinct : (Keyed.keys members).Nodup) :
    (object members).sorted = (object entries).sorted ↔
      (members.map sortedMember).Perm (entries.map sortedMember) := by
  rw [sorted_object, sorted_object, object.injEq, sortMembers_eq_iff]
  rwa [keys_map_sortedMember]

theorem sorted_perm (distinct : (Keyed.keys members).Nodup) (perm : members.Perm entries) :
    (object members).sorted = (object entries).sorted :=
  (sorted_object_eq_iff_perm distinct).mpr (perm.map sortedMember)

/-- Two objects are the same up to the order of members exactly if they have the same keys, and
under each of them values that are the same up to the order of members. -/
theorem sorted_object_eq_iff (distinct : (Keyed.keys members).Nodup)
    (distinctEntries : (Keyed.keys entries).Nodup) :
    (object members).sorted = (object entries).sorted ↔
      ∀ key, (Keyed.get? members key).map sorted = (Keyed.get? entries key).map sorted := by
  rw [sorted_object_eq_iff_perm distinct]
  constructor
  · intro perm key
    have same := Keyed.get?_perm perm (by rwa [keys_map_sortedMember]) key
    rwa [get?_map_sortedMember, get?_map_sortedMember] at same
  · intro same
    apply Keyed.perm_of_get? (by rwa [keys_map_sortedMember]) (by rwa [keys_map_sortedMember])
    · intro entry mem
      rcases List.mem_map.mp mem with ⟨⟨key, value⟩, there, rfl⟩
      have found : Keyed.get? entries key = some value := Keyed.get?_of_mem distinctEntries there
      rw [get?_map_sortedMember, sortedMember, same key, found]
      rfl
    · intro key mem
      rw [keys_map_sortedMember] at mem ⊢
      rcases Keyed.exists_of_mem_keys mem with ⟨value, found⟩
      have there := same key
      rw [found, Option.map_some] at there
      rcases Option.map_eq_some_iff.mp there.symm with ⟨other, again, -⟩
      exact Keyed.mem_keys_of_get? again

end Objects

theorem exists_array_of_sorted_eq {elements : List Json} {other : Json}
    (same : (array elements).sorted = other.sorted) :
    ∃ others, other = .array others ∧ elements.map sorted = others.map sorted := by
  rw [sorted_array] at same
  cases other with
  | array others =>
      rw [sorted_array, array.injEq] at same
      exact ⟨others, rfl, same⟩
  | object entries =>
      rw [sorted_object] at same
      cases same
  | _ => cases same

theorem exists_object_of_sorted_eq {members : List (String × Json)} {other : Json}
    (distinct : (Keyed.keys members).Nodup) (same : (object members).sorted = other.sorted) :
    ∃ entries, other = .object entries ∧
      (members.map sortedMember).Perm (entries.map sortedMember) := by
  cases other with
  | object entries => exact ⟨entries, rfl, (sorted_object_eq_iff_perm distinct).mp same⟩
  | array others =>
      rw [sorted_object, sorted_array] at same
      cases same
  | _ =>
      rw [sorted_object] at same
      cases same

/-- Where sorting leaves no object, there was none. -/
theorem sorted_eq_self_of_flat {value : Json}
    (flat : ∀ part ∈ value.sorted.parts, part.isObject = false) : value.sorted = value := by
  induction value using induct with
  | array elements ih =>
      rw [sorted_array] at flat ⊢
      have inside := List.forall_mem_map.mp (forall_parts_array.mp flat).2
      have same : elements.map sorted = elements.map id :=
        List.map_congr_left fun element mem => ih element mem (inside element mem)
      rw [same, List.map_id]
  | object members ih =>
      have here := flat _ (self_mem_parts _)
      rw [sorted_object] at here
      cases here
  | _ => rfl

/-- Nothing but itself has the same sorted form as a value without objects. -/
theorem eq_of_sorted_eq {value other : Json} (flat : ∀ part ∈ value.parts, part.isObject = false)
    (same : value.sorted = other.sorted) : other = value := by
  have unchanged : value.sorted = value := mapObjects_eq_self flat
  rw [unchanged] at same
  rw [same] at flat ⊢
  exact (sorted_eq_self_of_flat flat).symm

theorem height_sorted (value : Json) : value.sorted.height = value.height := by
  induction value using induct with
  | array elements ih => rw [sorted_array, height_array_map ih]
  | object members ih =>
      rw [sorted_object, height_perm (sortMembers_perm _)]
      exact height_object_map ih
  | _ => rfl

end DocHighlight.Json
