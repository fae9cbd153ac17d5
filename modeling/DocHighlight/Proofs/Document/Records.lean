import DocHighlight.Document.Reading

/-!
# Checked values and records

When a checked value is valid, and what it takes for the fields of a record to be found. A field may
go by either of two names. As long as no two fields share a name, the fields of a record are there
and nothing else is exactly if its members are some values under one name for each field, in
whatever order.
-/

namespace DocHighlight.Document

namespace Checked

variable {α β γ : Type}

@[simp]
theorem problem_eq_valid {cause : Problem} {value : α} :
    (problem cause : Checked α) = .valid value ↔ False := by
  simp [problem]

@[simp]
theorem map_eq_valid {f : α → β} {checked : Checked α} {value : β} :
    checked.map f = .valid value ↔ ∃ a, checked = .valid a ∧ f a = value := by
  cases checked <;> simp [map]

@[simp]
theorem both_eq_valid {f : α → β → γ} {first : Checked α} {second : Checked β} {value : γ} :
    both f first second = .valid value ↔
      ∃ a b, first = .valid a ∧ second = .valid b ∧ f a b = value := by
  cases first <;> cases second <;> simp [both]

@[simp]
theorem also_eq_valid {checked : Checked α} {extra : List Problem} {value : α} :
    checked.also extra = .valid value ↔ checked = .valid value ∧ extra = [] := by
  cases extra <;> cases checked <;> simp [also]

end Checked

theorem unknownFields_eq_nil {α : Type} {members : List (String × α)} {known : List String} :
    unknownFields members known = [] ↔ ∀ key ∈ Keyed.keys members, key ∈ known := by
  simp only [unknownFields, List.map_eq_nil_iff, List.filter_eq_nil_iff, Keyed.keys,
    List.forall_mem_map, Bool.not_eq_true, Bool.not_eq_false', List.contains_iff_mem]

theorem find?_only {α : Type} (name : String) (members : List (String × α)) :
    (FieldName.only name).find? members = Keyed.get? members name := by
  cases found : Keyed.get? members name <;> simp [FieldName.find?, FieldName.only, found]

theorem require_eq_valid {α β : Type} {field : FieldName} {members : List (String × α)}
    {read : α → Checked β} {value : β} :
    field.require members read = .valid value ↔
      ∃ given, field.find? members = some given ∧ read given = .valid value := by
  cases found : field.find? members <;> simp [FieldName.require, found]

theorem orElse_eq_valid {α β : Type} {name : String} {members : List (String × α)} {default : β}
    {read : α → Checked β} {value : β} :
    (FieldName.only name).orElse members default read = .valid value ↔
      (∃ given, Keyed.get? members name = some given ∧ read given = .valid value) ∨
        Keyed.get? members name = none ∧ default = value := by
  cases found : Keyed.get? members name <;> simp [FieldName.orElse, find?_only, found]

/-- Two fields whose names cannot be mistaken for one another. -/
def FieldName.Apart (first second : FieldName) : Prop :=
  (first.name ≠ second.name ∧ first.name ≠ second.otherName) ∧
    first.otherName ≠ second.name ∧ first.otherName ≠ second.otherName

instance (first second : FieldName) : Decidable (first.Apart second) :=
  inferInstanceAs (Decidable (_ ∧ _))

theorem FieldName.eq_or_apart {labels : List FieldName} (apart : labels.Pairwise FieldName.Apart) :
    ∀ first ∈ labels, ∀ second ∈ labels, first = second ∨ first.Apart second := by
  apply List.Pairwise.forall_of_forall_of_flip
  · intro _ _
    exact .inl rfl
  · exact apart.imp .inr
  · apply apart.imp
    rintro first second ⟨⟨here, there⟩, back, far⟩
    exact .inr ⟨⟨Ne.symm here, Ne.symm back⟩, Ne.symm there, Ne.symm far⟩

/-- Which one of its names each field goes by. -/
def Naming (labels : List FieldName) (naming : FieldName → String) : Prop :=
  ∀ label ∈ labels, naming label = label.name ∨ naming label = label.otherName

section Record

variable {α : Type} {labels : List FieldName} {members : List (String × α)}

theorem Naming.nodup {naming : FieldName → String} (names : Naming labels naming)
    (apart : labels.Pairwise FieldName.Apart) : (labels.map naming).Nodup := by
  rw [List.Nodup, List.pairwise_map]
  apply apart.imp_of_mem
  rintro first second memFirst memSecond ⟨⟨here, there⟩, back, far⟩
  rcases names first memFirst with same | same <;> rw [same] <;>
    rcases names second memSecond with other | other <;> rw [other] <;> assumption

/-- The name under which a field is present, if it is. -/
def presentName (members : List (String × α)) (label : FieldName) : String :=
  if (Keyed.get? members label.name).isSome then label.name else label.otherName

theorem get?_presentName (label : FieldName) :
    Keyed.get? members (presentName members label) = label.find? members := by
  rw [presentName, FieldName.find?]
  cases found : Keyed.get? members label.name with
  | none => rfl
  | some value => exact found

theorem key?_eq_some {label : FieldName} {key : String}
    (present : label.key? members = some key) : key = presentName members label := by
  rw [FieldName.key?] at present
  rw [presentName]
  split at present
  · rename_i preferred
    rw [if_pos preferred]
    exact (Option.some.inj present).symm
  · rename_i missing
    rw [if_neg missing]
    split at present
    · exact (Option.some.inj present).symm
    · cases present

theorem key?_of_find? {label : FieldName} {value : α} (found : label.find? members = some value) :
    label.key? members = some (presentName members label) := by
  rw [← get?_presentName] at found
  rw [FieldName.key?]
  rw [presentName] at found ⊢
  split
  · rfl
  · rename_i missing
    rw [if_neg missing] at found
    rw [if_pos (by rw [found]; rfl)]

/-- Where every field is present under one of its names only, that name is found. -/
theorem presentName_eq {naming : FieldName → String} (names : Naming labels naming)
    (apart : labels.Pairwise FieldName.Apart)
    (sameKeys : ∀ key, key ∈ Keyed.keys members ↔ key ∈ labels.map naming) {label : FieldName}
    (mem : label ∈ labels) : presentName members label = naming label := by
  rw [presentName]
  split
  · rename_i present
    rcases Option.isSome_iff_exists.mp present with ⟨value, found⟩
    have known := (sameKeys _).mp (Keyed.mem_keys_of_get? found)
    rcases List.mem_map.mp known with ⟨other, memOther, same⟩
    rcases FieldName.eq_or_apart apart label mem other memOther with rfl | ⟨⟨here, there⟩, -⟩
    · exact same.symm
    · rcases names other memOther with name | name <;> rw [name] at same
      · exact absurd same.symm here
      · exact absurd same.symm there
  · rename_i absent
    rcases names label mem with name | name
    · have known := (sameKeys _).mpr (List.mem_map_of_mem mem)
      rw [name] at known
      rw [Option.not_isSome_iff_eq_none, Keyed.get?_eq_none_iff] at absent
      exact absurd known absent
    · exact name.symm

theorem map_eq_map_iff_zip {β γ δ : Type} {f : β → δ} {g : γ → δ} {xs : List β} {ys : List γ} :
    xs.map f = ys.map g ↔ ys.length = xs.length ∧ ∀ pair ∈ xs.zip ys, f pair.1 = g pair.2 := by
  induction xs generalizing ys with
  | nil => cases ys <;> simp
  | cons x xs ih =>
      cases ys with
      | nil => simp
      | cons y ys =>
          simp only [List.map_cons, List.cons.injEq, ih, List.length_cons, Nat.add_right_cancel_iff,
            List.zip_cons_cons, List.forall_mem_cons]
          exact and_left_comm

theorem naming_presentName : Naming labels (presentName members) := by
  intro label _
  rw [presentName]
  split
  · exact .inl rfl
  · exact .inr rfl

section Found

variable {values : List α}

/-- If all fields are found and no key is unknown, then there are just the fields. -/
theorem perm_of_found (apart : labels.Pairwise FieldName.Apart)
    (distinct : (Keyed.keys members).Nodup)
    (found : labels.map (fun label => label.find? members) = values.map some)
    (known : ∀ key ∈ Keyed.keys members, key ∈ labels.filterMap fun label => label.key? members) :
    values.length = labels.length ∧
      members.Perm ((labels.map (presentName members)).zip values) := by
  have byName : (labels.map (presentName members)).map (Keyed.get? members) = values.map some := by
    rw [← found, List.map_map]
    exact List.map_congr_left fun label _ => get?_presentName label
  rcases map_eq_map_iff_zip.mp byName with ⟨length, each⟩
  rw [List.length_map] at length
  have keysZip : Keyed.keys ((labels.map (presentName members)).zip values) =
      labels.map (presentName members) := Keyed.keys_zip (by simp [length])
  refine ⟨length, ?_⟩
  apply Keyed.perm_of_get? distinct
  · rw [keysZip]
    exact naming_presentName.nodup apart
  · exact each
  · intro key mem
    rw [keysZip]
    rcases List.mem_filterMap.mp (known key mem) with ⟨label, there, present⟩
    rw [key?_eq_some present]
    exact List.mem_map_of_mem there

/-- If there are just the fields, each under one of its names, then all are found. -/
theorem found_of_perm (apart : labels.Pairwise FieldName.Apart)
    (distinct : (Keyed.keys members).Nodup) {naming : FieldName → String}
    (names : Naming labels naming) (length : values.length = labels.length)
    (perm : members.Perm ((labels.map naming).zip values)) :
    labels.map (fun label => label.find? members) = values.map some ∧
      ∀ key ∈ Keyed.keys members, key ∈ labels.filterMap fun label => label.key? members := by
  have sameKeys : ∀ key, key ∈ Keyed.keys members ↔ key ∈ labels.map naming := by
    intro key
    have memIff : key ∈ Keyed.keys members ↔ key ∈ Keyed.keys ((labels.map naming).zip values) :=
      (perm.map Prod.fst).mem_iff
    rwa [Keyed.keys_zip (by simp [length])] at memIff
  have found : labels.map (fun label => label.find? members) = values.map some := by
    have byName : (labels.map naming).map (Keyed.get? members) = values.map some :=
      map_eq_map_iff_zip.mpr
        ⟨by simpa using length, fun pair mem => Keyed.get?_of_mem distinct (perm.mem_iff.mpr mem)⟩
    rw [← byName, List.map_map]
    apply List.map_congr_left
    intro label mem
    rw [Function.comp, ← presentName_eq names apart sameKeys mem, get?_presentName]
  refine ⟨found, ?_⟩
  intro key mem
  rcases List.mem_map.mp ((sameKeys key).mp mem) with ⟨label, there, rfl⟩
  apply List.mem_filterMap.mpr
  refine ⟨label, there, ?_⟩
  have present : label.find? members ∈ values.map some := by
    rw [← found]
    exact List.mem_map_of_mem there
  rcases List.mem_map.mp present with ⟨value, -, same⟩
  rw [key?_of_find? same.symm, presentName_eq names apart sameKeys there]

/-- The record that has values in the fields of given names has just those members. -/
theorem record_iff (apart : labels.Pairwise FieldName.Apart)
    (distinct : (Keyed.keys members).Nodup) :
    (labels.map (fun label => label.find? members) = values.map some ∧
        ∀ key ∈ Keyed.keys members, key ∈ labels.filterMap fun label => label.key? members) ↔
      ∃ naming, Naming labels naming ∧ values.length = labels.length ∧
        members.Perm ((labels.map naming).zip values) := by
  constructor
  · rintro ⟨found, known⟩
    exact ⟨_, naming_presentName, perm_of_found apart distinct found known⟩
  · rintro ⟨naming, names, length, perm⟩
    exact found_of_perm apart distinct names length perm

end Found

end Record

section Compare

variable {α : Type}

/-- Values that go by the same names are the same if they are so in any order. -/
theorem eq_of_zip_perm {names : List String} {values others : List α} (distinct : names.Nodup)
    (length : values.length = names.length) (lengthOthers : others.length = names.length)
    (perm : (names.zip values).Perm (names.zip others)) : values = others := by
  induction names generalizing values others with
  | nil =>
      rw [List.length_nil, List.length_eq_zero_iff] at length lengthOthers
      rw [length, lengthOthers]
  | cons name names ih =>
      rw [List.nodup_cons] at distinct
      rcases values with _ | ⟨value, values⟩
      · cases length
      rcases others with _ | ⟨other, others⟩
      · cases lengthOthers
      simp only [List.length_cons, Nat.add_right_cancel_iff] at length lengthOthers
      simp only [List.zip_cons_cons] at perm
      have first : value = other := by
        have mem := perm.mem_iff.mp (List.mem_cons_self ..)
        rcases List.mem_cons.mp mem with same | mem
        · exact congrArg Prod.snd same
        · exact absurd (List.of_mem_zip mem).1 distinct.1
      rw [first, List.perm_cons] at perm
      rw [first, ih distinct.2 length lengthOthers perm]

/-- A record with the same members as one under the preferred names has these names and the same
values. -/
theorem eq_of_record_perm {labels : List FieldName} (apart : labels.Pairwise FieldName.Apart)
    {naming : FieldName → String} {items values : List α} (names : Naming labels naming)
    (length : items.length = labels.length) (lengthValues : values.length = labels.length)
    (perm : ((labels.map FieldName.name).zip items).Perm ((labels.map naming).zip values)) :
    (∀ label ∈ labels, naming label = label.name) ∧ items = values := by
  have distinct : (labels.map FieldName.name).Nodup := Naming.nodup (fun _ _ => .inl rfl) apart
  have namesPerm := perm.map Prod.fst
  rw [List.map_fst_zip (by simp [length]), List.map_fst_zip (by simp [lengthValues])] at namesPerm
  have preferred : ∀ label ∈ labels, naming label = label.name := by
    intro label mem
    have known := namesPerm.mem_iff.mpr (List.mem_map_of_mem mem)
    rcases List.mem_map.mp known with ⟨other, there, name⟩
    rcases FieldName.eq_or_apart apart other there label mem with rfl | ⟨⟨here, far⟩, -⟩
    · exact name.symm
    · rcases names label mem with own | own <;> rw [own] at name
      · exact absurd name here
      · exact absurd name far
  refine ⟨preferred, ?_⟩
  rw [List.map_congr_left preferred] at perm
  exact eq_of_zip_perm distinct (by simp [length]) (by simp [lengthValues]) perm

end Compare

end DocHighlight.Document
