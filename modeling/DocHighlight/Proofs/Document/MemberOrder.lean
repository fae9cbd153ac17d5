import DocHighlight.Proofs.Document.Conformance
import Mathlib.Data.List.Perm.Basic

/-!
# The order of members does not matter

Two values that are the same up to the order of members are read as the same tree. For documents
this leaves the metadata, which is kept as it is given: its members come in the order they had, and
the blocks are the same.

This is an induction on how the first of the two values is read. What is read from an object depends
on the values under the names of its fields only, and these are the same up to the order of members
for the two values.
-/

namespace DocHighlight.Document

/-- What is the same up to the order of members as a record is one with the same names, and with
values that are the same up to the order of members. -/
theorem exists_record_of_sorted_eq {members : List (String × Json)} {names : List String}
    {values : List Json} {other : Json} (distinct : (Keyed.keys members).Nodup)
    (perm : members.Perm (names.zip values)) (length : values.length = names.length)
    (same : (Json.object members).sorted = other.sorted) :
    ∃ entries others, other = .object entries ∧ entries.Perm (names.zip others) ∧
      values.map Json.sorted = others.map Json.sorted := by
  rcases Json.exists_object_of_sorted_eq distinct same with ⟨entries, rfl, permEntries⟩
  have sortedPerm := (perm.map Json.sortedMember).symm.trans permEntries
  rw [map_sortedMember_zip] at sortedPerm
  -- The entries are put into the order of the record first.
  have byEntry : List.Forall₂ (fun sorted entry => sorted = Json.sortedMember entry)
      (entries.map Json.sortedMember) entries := by
    rw [List.forall₂_map_left_iff, List.forall₂_same]
    exact fun _ _ => rfl
  rcases List.perm_comp_forall₂ sortedPerm byEntry with ⟨arranged, related, permArranged⟩
  have arrangedMap : arranged.map Json.sortedMember = names.zip (values.map Json.sorted) := by
    rw [← List.forall₂_eq_eq_eq, List.forall₂_map_left_iff]
    exact related.flip.imp fun _ _ => Eq.symm
  have keys : arranged.map Prod.fst = names := by
    have firsts := congrArg (List.map Prod.fst) arrangedMap
    rwa [List.map_map, List.map_fst_zip (by simp [length])] at firsts
  have sortedValues : values.map Json.sorted = (arranged.map Prod.snd).map Json.sorted := by
    have seconds := congrArg (List.map Prod.snd) arrangedMap
    rw [List.map_map, List.map_snd_zip (by simp [length])] at seconds
    rw [← seconds, List.map_map]
    rfl
  refine ⟨entries, arranged.map Prod.snd, rfl, ?_, sortedValues⟩
  rw [← List.zip_of_prod keys rfl]
  exact permArranged.symm

theorem exists_of_map_sorted_eq_cons {value : Json} {values others : List Json}
    (same : (value :: values).map Json.sorted = others.map Json.sorted) :
    ∃ first rest, others = first :: rest ∧ value.sorted = first.sorted ∧
      values.map Json.sorted = rest.map Json.sorted := by
  cases others with
  | nil => cases same
  | cons first rest =>
      rw [List.map_cons, List.map_cons, List.cons.injEq] at same
      exact ⟨first, rest, rfl, same.1, same.2⟩

theorem eq_nil_of_map_sorted_eq {others : List Json}
    (same : ([] : List Json).map Json.sorted = others.map Json.sorted) : others = [] :=
  List.map_eq_nil_iff.mp same.symm

theorem flat_of_scalar {value : Json} (alone : value.parts = [value])
    (scalar : value.isObject = false) : ∀ part ∈ value.parts, part.isObject = false := by
  rw [alone]
  exact List.forall_mem_singleton.mpr scalar

theorem eq_tag_of_sorted_eq {members : List (String × Json)} {name : String} {other : Json}
    (distinct : (Keyed.keys members).Nodup) (perm : members.Perm [("t", .string name)])
    (same : (Json.object members).sorted = other.sorted) :
    other = .object [("t", .string name)] := by
  rcases @exists_record_of_sorted_eq members ["t"] [.string name] other distinct perm rfl same with
    ⟨entries, others, rfl, permEntries, sameValues⟩
  rcases exists_of_map_sorted_eq_cons sameValues with ⟨tag, rest, rfl, sameTag, sameRest⟩
  rw [Json.eq_of_sorted_eq (flat_of_scalar rfl rfl) sameTag, List.zip_cons_cons, List.zip_nil_left,
    List.perm_singleton] at permEntries
  rw [permEntries]

theorem exists_tagged_of_sorted_eq {members : List (String × Json)} {name : String}
    {value other : Json} (distinct : (Keyed.keys members).Nodup)
    (perm : members.Perm [("t", .string name), ("c", value)])
    (same : (Json.object members).sorted = other.sorted) :
    ∃ entries changed, other = .object entries ∧
      entries.Perm [("t", .string name), ("c", changed)] ∧ value.sorted = changed.sorted := by
  rcases @exists_record_of_sorted_eq members ["t", "c"] [.string name, value] other distinct perm
    rfl same with ⟨entries, others, rfl, permEntries, sameValues⟩
  rcases exists_of_map_sorted_eq_cons sameValues with ⟨tag, rest, rfl, sameTag, sameRest⟩
  rcases exists_of_map_sorted_eq_cons sameRest with ⟨changed, more, rfl, sameValue, -⟩
  rw [Json.eq_of_sorted_eq (flat_of_scalar rfl rfl) sameTag] at permEntries
  exact ⟨entries, changed, rfl, permEntries, sameValue⟩

section Attributes

variable {members entries : List (String × Json)}

theorem givenOr_of_sorted_eq {name : String} {value : Json} {isDefault : Prop}
    (same : ∀ key, (Keyed.get? members key).map Json.sorted =
      (Keyed.get? entries key).map Json.sorted)
    (flat : ∀ part ∈ value.parts, part.isObject = false)
    (given : GivenOr members name value isDefault) : GivenOr entries name value isDefault := by
  have here := same name
  rcases given with found | ⟨missing, default⟩
  · rw [found, Option.map_some] at here
    rcases Option.map_eq_some_iff.mp here.symm with ⟨changed, foundChanged, alike⟩
    rw [Json.eq_of_sorted_eq flat alike.symm] at foundChanged
    exact .inl foundChanged
  · rw [missing, Option.map_none] at here
    exact .inr ⟨Option.map_eq_none_iff.mp here.symm, default⟩

theorem ReadsAttributes.of_sorted_eq {value other : Json} {attributes : Attributes}
    (reads : ReadsAttributes value attributes) (distinct : value.DistinctKeys)
    (same : value.sorted = other.sorted) : ReadsAttributes other attributes := by
  have flat := @forall_parts_attributes (fun part => part.isObject = false) (fun _ => rfl)
    (fun _ => rfl) attributes
  cases reads with
  | array attributes =>
      rw [Json.eq_of_sorted_eq flat same]
      exact .array attributes
  | @object members attributes identifier classes pairs known =>
      have distinctMembers := (Json.distinctKeys_object.mp distinct).1
      rcases Json.exists_object_of_sorted_eq distinctMembers same with ⟨entries, rfl, perm⟩
      have byKey : ∀ key, (Keyed.get? members key).map Json.sorted =
          (Keyed.get? entries key).map Json.sorted := by
        intro key
        have found := Keyed.get?_perm perm (by rwa [Json.keys_map_sortedMember]) key
        rwa [Json.get?_map_sortedMember, Json.get?_map_sortedMember] at found
      have inside := (Json.forall_parts_array.mp flat).2
      simp only [List.forall_mem_cons] at inside
      rcases inside with ⟨flatIdentifier, flatClasses, flatPairs, -⟩
      refine .object (givenOr_of_sorted_eq byKey flatIdentifier identifier)
        (givenOr_of_sorted_eq byKey flatClasses classes)
        (givenOr_of_sorted_eq byKey flatPairs pairs) ?_
      intro key mem
      have sameKeys := (perm.map Prod.fst).mem_iff (a := key)
      rw [← Keyed.keys, ← Keyed.keys, Json.keys_map_sortedMember, Json.keys_map_sortedMember]
        at sameKeys
      exact known key (sameKeys.mpr mem)

end Attributes

theorem exists_cons_of_sorted_eq {value : Json} {values : List Json} {other : Json}
    (same : (Json.array (value :: values)).sorted = other.sorted) :
    ∃ first rest, other = .array (first :: rest) ∧ value.sorted = first.sorted ∧
      (Json.array values).sorted = (Json.array rest).sorted := by
  rcases Json.exists_array_of_sorted_eq same with ⟨others, rfl, sameElements⟩
  rcases exists_of_map_sorted_eq_cons sameElements with ⟨first, rest, rfl, -⟩
  exact ⟨first, rest, rfl, sorted_cons_inj same⟩

section Objects

variable {members : List (String × Json)} {other : Json}

theorem reads_width_of_sorted_eq {width : ColumnWidth} (perm : members.Perm width.members)
    (distinct : (Json.object members).DistinctKeys)
    (same : (Json.object members).sorted = other.sorted) : Reads other (.width width) := by
  have distinctMembers := (Json.distinctKeys_object.mp distinct).1
  cases width with
  | standard =>
      rw [eq_tag_of_sorted_eq distinctMembers perm same]
      exact .width (.refl _)
  | integer number | float number =>
      rcases exists_tagged_of_sorted_eq distinctMembers perm same with
        ⟨entries, changed, rfl, permEntries, sameValue⟩
      rw [Json.eq_of_sorted_eq (flat_of_scalar rfl rfl) sameValue] at permEntries
      exact .width permEntries

/-- A node is read from another order of members if its payload is. -/
theorem reads_node_of_sorted_eq {place : Place} {kind : NodeKind} {value : Json}
    {payload : Tree kind.payload} (fits : kind.fits place = true)
    (perm : members.Perm (kind.members value)) (distinct : (Json.object members).DistinctKeys)
    (inner : ∀ {changed}, value.DistinctKeys → value.sorted = changed.sorted →
      Reads changed payload)
    (same : (Json.object members).sorted = other.sorted) :
    Reads other (@Tree.node place kind payload) := by
  have distinctMembers := (Json.distinctKeys_object.mp distinct).1
  -- Of a node without a payload the value that is read as the payload stands nowhere.
  by_cases bare : kind.payload = .nothing
  · rw [members_of_bare bare] at perm
    rw [eq_tag_of_sorted_eq distinctMembers perm same]
    exact .node fits (by rw [members_of_bare bare]) (reads_of_nothing bare .null payload)
  · have distinctInner := distinct_of_perm distinct perm (payload_mem_members bare value)
    rw [members_of_not_bare bare] at perm
    rcases exists_tagged_of_sorted_eq distinctMembers perm same with
      ⟨entries, changed, rfl, permEntries, sameValue⟩
    rw [← members_of_not_bare bare] at permEntries
    exact .node fits permEntries (inner distinctInner sameValue)

end Objects

/-- Values that are the same up to the order of members are read as the same tree. -/
theorem Reads.of_sorted_eq {shape : Shape} {value other : Json} {tree : Tree shape}
    (reads : Reads value tree) (distinct : value.DistinctKeys)
    (same : value.sorted = other.sorted) : Reads other tree := by
  induction reads generalizing other with
  | text text =>
      rw [Json.eq_of_sorted_eq (flat_of_scalar rfl rfl) same]
      exact .text text
  | integer number =>
      rw [Json.eq_of_sorted_eq (flat_of_scalar rfl rfl) same]
      exact .integer number
  | attributes given => exact .attributes (given.of_sorted_eq distinct same)
  | width perm => exact reads_width_of_sorted_eq perm distinct same
  | tag tag =>
      rw [eq_tag_of_sorted_eq (Json.distinctKeys_object.mp distinct).1 (.refl _) same]
      exact .tag tag
  | nothing value => exact .nothing other
  | node fits perm inner ih => exact reads_node_of_sorted_eq fits perm distinct ih same
  | @citation naming members values fields names perm inner ih =>
      have distinctMembers := (Json.distinctKeys_object.mp distinct).1
      have length : values.length = citationLabels.length := inner.length_tuple
      rcases exists_record_of_sorted_eq distinctMembers perm (by simpa using length) same with
        ⟨entries, others, rfl, permEntries, sameValues⟩
      refine .citation names permEntries (ih (distinct_values distinct length perm) ?_)
      rw [Json.sorted_array, Json.sorted_array, sameValues]
  | nil =>
      rw [Json.eq_of_sorted_eq (flat_of_scalar rfl rfl) same]
      exact .nil
  | cons head tail ihHead ihTail =>
      rcases List.forall_mem_cons.mp (Json.distinctKeys_array.mp distinct) with ⟨here, there⟩
      rcases exists_cons_of_sorted_eq same with ⟨first, rest, rfl, sameFirst, sameRest⟩
      exact .cons (ihHead here sameFirst) (ihTail (Json.distinctKeys_array.mpr there) sameRest)
  | absent =>
      rw [Json.eq_of_sorted_eq (flat_of_scalar rfl rfl) same]
      exact .absent
  | present notNull inner ih =>
      refine .present ?_ (ih distinct same)
      rintro rfl
      exact notNull (Json.eq_of_sorted_eq (flat_of_scalar rfl rfl) same.symm)
  | done =>
      rw [Json.eq_of_sorted_eq (flat_of_scalar rfl rfl) same]
      exact .done
  | field head tail ihHead ihTail =>
      rcases List.forall_mem_cons.mp (Json.distinctKeys_array.mp distinct) with ⟨here, there⟩
      rcases exists_cons_of_sorted_eq same with ⟨first, rest, rfl, sameFirst, sameRest⟩
      exact .field (ihHead here sameFirst) (ihTail (Json.distinctKeys_array.mpr there) sameRest)

theorem ReadsBlocks.of_sorted_eq {values others : List Json} {blocks : List Block}
    (reads : ReadsBlocks values blocks) (distinct : (Json.array values).DistinctKeys)
    (same : values.map Json.sorted = others.map Json.sorted) : ReadsBlocks others blocks := by
  induction reads generalizing others with
  | nil =>
      rw [eq_nil_of_map_sorted_eq same]
      exact .nil
  | cons head tail ih =>
      rcases List.forall_mem_cons.mp (Json.distinctKeys_array.mp distinct) with ⟨here, there⟩
      rcases exists_of_map_sorted_eq_cons same with ⟨changed, rest, rfl, sameFirst, sameOthers⟩
      exact .cons (head.of_sorted_eq here sameFirst)
        (ih (Json.distinctKeys_array.mpr there) sameOthers)

/-- Values that are the same up to the order of members are read as the same document, but for the
order of members in the metadata. -/
theorem ReadsDocument.exists_of_sorted_eq {value other : Json} {document : Document}
    (reads : ReadsDocument value document) (distinct : value.DistinctKeys)
    (same : value.sorted = other.sorted) :
    ∃ metadata, (Json.object document.metadata).sorted = (Json.object metadata).sorted ∧
      ReadsDocument other { document with metadata } := by
  have distinctMetadata := (Json.distinctKeys_object.mp (reads.distinct_metadata distinct)).1
  rcases reads with @⟨naming, members, values, _, names, perm, blocks⟩
  have distinctMembers := (Json.distinctKeys_object.mp distinct).1
  have flatVersion : ∀ part ∈ (Json.array (document.version.map .integer)).parts,
      part.isObject = false := by
    rw [Json.forall_parts_array, List.forall_mem_map]
    exact ⟨rfl, fun number _ => flat_of_scalar rfl rfl⟩
  rcases exists_record_of_sorted_eq distinctMembers perm rfl same with
    ⟨entries, others, rfl, permEntries, sameValues⟩
  rcases exists_of_map_sorted_eq_cons sameValues with ⟨version, _, rfl, sameVersion, sameRest⟩
  rcases exists_of_map_sorted_eq_cons sameRest with ⟨metadata, _, rfl, sameMetadata, sameRest⟩
  rcases exists_of_map_sorted_eq_cons sameRest with ⟨elements, _, rfl, sameElements, sameRest⟩
  rw [Json.eq_of_sorted_eq flatVersion sameVersion, eq_nil_of_map_sorted_eq sameRest]
    at permEntries
  rcases Json.exists_object_of_sorted_eq distinctMetadata sameMetadata with ⟨changed, rfl, -⟩
  rcases Json.exists_array_of_sorted_eq sameElements with ⟨blocksGiven, rfl, sameBlocks⟩
  exact ⟨changed, sameMetadata, .mk names permEntries
    (blocks.of_sorted_eq (distinct_blocks distinct perm) sameBlocks)⟩

/-- Inputs that differ in the order of members only are decoded alike. -/
theorem decode_of_sorted_eq {input other : Input} {value changed : Json} {document : Document}
    (parses : input.Parses value) (parsesOther : other.Parses changed)
    (same : value.sorted = changed.sorted) (decoded : decode input = .ok document) :
    ∃ metadata, (Json.object document.metadata).sorted = (Json.object metadata).sorted ∧
      decode other = .ok { document with metadata } := by
  rcases decode_eq_ok_iff.mp decoded with ⟨_, parsesValue, reads⟩
  rw [parsesValue.unique parses] at reads
  rcases reads.exists_of_sorted_eq parses.distinct same with ⟨metadata, alike, readsOther⟩
  exact ⟨metadata, alike, decode_eq_ok_iff.mpr ⟨changed, parsesOther, readsOther⟩⟩

end DocHighlight.Document
