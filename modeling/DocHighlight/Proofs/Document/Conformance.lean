import DocHighlight.Proofs.Document.Codec
import DocHighlight.Proofs.Document.Grammar
import DocHighlight.Proofs.Document.RoundTrip
import DocHighlight.Proofs.Json.Order

/-!
# The grammar and the reader

Whatever conforms to the grammar of documents is read, and if its form is the documented one, then
the tree is written as the value with its members in order. Conversely, whatever is read conforms to
the accepted form; and if the tree is written as the value up to the order of members, then the
value conforms to the documented form.

Both directions are inductions: the first on how a value conforms, the second on how it is read.
-/

namespace DocHighlight.Document

section Arrange

variable {members entries : List (String × Json)}

theorem inOrder_perm (perm : members.Perm entries) (distinct : (Keyed.keys members).Nodup)
    (order : List String) : inOrder order members = inOrder order entries := by
  simp only [inOrder, Keyed.get?_perm perm distinct]

theorem arrange_array (values : List Json) :
    arrange (.array values) = .array (values.map arrange) := by
  simp only [arrange, Json.mapObjects, Json.mapObjectsOfElements_eq_map]
  rfl

theorem arrange_object (members : List (String × Json)) :
    arrange (.object members) =
      .object (inOrder writtenOrder (members.map fun member => (member.1, arrange member.2))) := by
  simp only [arrange, Json.mapObjects, Json.mapObjectsOfMembers_eq_map]

theorem arrange_perm (perm : members.Perm entries) (distinct : (Keyed.keys members).Nodup) :
    arrange (.object members) = arrange (.object entries) := by
  rw [arrange_object, arrange_object]
  rw [inOrder_perm (perm.map _) (by rwa [Keyed.keys_map])]

theorem arrange_tag (name : String) :
    arrange (.object [("t", .string name)]) = .object [("t", .string name)] := by
  rfl

theorem arrange_tagged (name : String) (value : Json) :
    arrange (.object [("t", .string name), ("c", value)]) =
      .object [("t", .string name), ("c", arrange value)] := by
  rw [arrange_object]
  rfl

/-- The members of a citation are in order already. -/
theorem arrange_citation (values : List Json) :
    arrange (.object (citationNames.zip values)) =
      .object (citationNames.zip (values.map arrange)) := by
  rw [arrange_object]
  rcases values with _ | ⟨a, _ | ⟨b, _ | ⟨c, _ | ⟨d, _ | ⟨e, _ | ⟨f, values⟩⟩⟩⟩⟩⟩ <;> rfl

end Arrange

/-- A tree is written as a value with its members in order, which drops none of them. -/
structure Restored {shape : Shape} (value : Json) (tree : Tree shape) : Prop where
  arranged : tree.toJson = arrange value
  same : tree.toJson.sorted = value.sorted

theorem map_sortedMember_zip (names : List String) (values : List Json) :
    (names.zip values).map Json.sortedMember = names.zip (values.map Json.sorted) :=
  Keyed.map_zip Json.sorted names values

theorem restored_items {whole : Shape} {tree : Tree whole} {items values : List Json}
    (written : tree.toJson = .array items) (restored : Restored (.array values) tree) :
    items = values.map arrange ∧ items.map Json.sorted = values.map Json.sorted := by
  have arranged := restored.arranged
  have same := restored.same
  rw [written] at arranged same
  rw [arrange_array, Json.array.injEq] at arranged
  rw [Json.sorted_array, Json.sorted_array, Json.array.injEq] at same
  exact ⟨arranged, same⟩

/-- An array is restored if its first element is, and the array of the others. -/
theorem restored_cons {shape othersShape whole : Shape} {value : Json} {values : List Json}
    {first : Tree shape} {others : Tree othersShape} {tree : Tree whole} {items : List Json}
    (written : tree.toJson = .array (first.toJson :: items))
    (othersWritten : others.toJson = .array items) (head : Restored value first)
    (tail : Restored (.array values) others) : Restored (.array (value :: values)) tree := by
  rcases restored_items othersWritten tail with ⟨arranged, same⟩
  constructor
  · rw [written, arrange_array, List.map_cons, head.arranged, arranged]
  · rw [written, Json.sorted_array, Json.sorted_array, List.map_cons, List.map_cons, head.same,
      same]

section Restored

variable {members : List (String × Json)}

theorem restored_width {width : ColumnWidth} (perm : members.Perm width.members)
    (distinct : (Keyed.keys members).Nodup) : Restored (.object members) (.width width) := by
  constructor
  · rw [arrange_perm perm distinct]
    cases width <;> rfl
  · rw [Json.sorted_perm distinct perm, Tree.toJson, toJson_width]

/-- A node is restored if its payload is. -/
theorem restored_node {place : Place} {kind : NodeKind} {payload : Json}
    {tree : Tree kind.payload} (perm : members.Perm [("t", .string kind.name), ("c", payload)])
    (distinct : (Keyed.keys members).Nodup) (notBare : kind.payload ≠ .nothing)
    (inner : Restored payload tree) : Restored (.object members) (@Tree.node place kind tree) := by
  constructor
  · rw [toJson_node, members_of_not_bare notBare, arrange_perm perm distinct, arrange_tagged,
      inner.arranged]
  · rw [toJson_node, members_of_not_bare notBare, Json.sorted_perm distinct perm,
      Json.sorted_object, Json.sorted_object]
    simp only [List.map_cons, Json.sortedMember, inner.same, List.map_nil]

/-- A citation under its preferred names is restored if the tuple of its values is. -/
theorem restored_citation {values : List Json}
    {fields : Tree (.tuple (citationFields.map CitationField.shape))}
    (perm : members.Perm (citationNames.zip values)) (distinct : (Keyed.keys members).Nodup)
    (inner : Restored (.array values) fields) : Restored (.object members) (.citation fields) := by
  rcases restored_items (toJson_tuple fields) inner with ⟨arranged, same⟩
  constructor
  · rw [arrange_perm perm distinct, arrange_citation values, ← arranged, Tree.toJson]
  · rw [Json.sorted_perm distinct perm, Tree.toJson, Json.sorted_object, Json.sorted_object,
      map_sortedMember_zip, map_sortedMember_zip, same]

end Restored

theorem attributeMember_iff {key : String} {value : Json} :
    AttributeMember (key, value) ↔
      (key = "identifier" ∧ ∃ text, value = .string text) ∨
        (key = "classes" ∧ ∃ texts, value = textsToJson texts) ∨
          key = "attributes" ∧ ∃ pairs, value = pairsToJson pairs := by
  constructor
  · rintro (_ | _ | _)
    · exact .inl ⟨rfl, _, rfl⟩
    · exact .inr (.inl ⟨rfl, _, rfl⟩)
    · exact .inr (.inr ⟨rfl, _, rfl⟩)
  · rintro (⟨rfl, text, rfl⟩ | ⟨rfl, texts, rfl⟩ | ⟨rfl, pairs, rfl⟩)
    · exact .identifier text
    · exact .classes texts
    · exact .pairs pairs

/-- A part of an object that may be missing. -/
theorem exists_givenOr {α : Type} {members : List (String × Json)} {name : String}
    {write : α → Json} (default : α)
    (each : ∀ value, (name, value) ∈ members → ∃ a, value = write a) :
    ∃ a, GivenOr members name (write a) (a = default) := by
  cases found : Keyed.get? members name with
  | none => exact ⟨default, .inr ⟨found, rfl⟩⟩
  | some value =>
      rcases each value (Keyed.mem_of_get? found) with ⟨a, rfl⟩
      exact ⟨a, .inl found⟩

theorem exists_readsAttributes {members : List (String × Json)}
    (each : ∀ member ∈ members, AttributeMember member) :
    ∃ attributes, ReadsAttributes (.object members) attributes := by
  have part := fun key value mem => attributeMember_iff.mp (each (key, value) mem)
  rcases @exists_givenOr _ members "identifier" Json.string "" (fun value mem => by
    simpa using part _ _ mem) with ⟨identifier, hasIdentifier⟩
  rcases @exists_givenOr _ members "classes" textsToJson [] (fun value mem => by
    simpa using part _ _ mem) with ⟨classes, hasClasses⟩
  rcases @exists_givenOr _ members "attributes" pairsToJson [] (fun value mem => by
    simpa using part _ _ mem) with ⟨pairs, hasPairs⟩
  refine ⟨⟨identifier, classes, pairs⟩, .object hasIdentifier hasClasses hasPairs ?_⟩
  intro key mem
  rcases List.mem_map.mp mem with ⟨⟨_, value⟩, there, rfl⟩
  rcases part _ _ there with ⟨same, -⟩ | ⟨same, -⟩ | ⟨same, -⟩ <;> simp [same]

theorem naming_of_allows {form : Form} {labels : List FieldName} {naming : FieldName → String}
    (names : ∀ label ∈ labels, form.Allows label (naming label)) : Naming labels naming := by
  intro label mem
  rcases names label mem with preferred | ⟨-, other⟩
  · exact .inl preferred
  · exact .inr other

theorem map_naming_of_documented {labels : List FieldName} {naming : FieldName → String}
    (names : ∀ label ∈ labels, Form.documented.Allows label (naming label)) :
    labels.map naming = labels.map FieldName.name := by
  apply List.map_congr_left
  intro label mem
  rcases names label mem with preferred | ⟨lenient, -⟩
  · exact preferred
  · cases lenient

theorem Conforms.length_tuple {form : Form} {shapes : List Shape} {values : List Json}
    (conforms : Conforms form (.tuple shapes) (.array values)) : values.length = shapes.length := by
  induction shapes generalizing values with
  | nil =>
      cases conforms
      rfl
  | cons shape shapes ih =>
      cases conforms with
      | field head tail => rw [List.length_cons, List.length_cons, ih tail]

/-- Whatever conforms is read; if its form is the documented one, then it is restored. -/
theorem Conforms.exists_reads {form : Form} {shape : Shape} {value : Json}
    (conforms : Conforms form shape value) (distinct : value.DistinctKeys) :
    ∃ tree : Tree shape, Reads value tree ∧ (form = .documented → Restored value tree) := by
  induction conforms with
  | text text => exact ⟨.text text, .text text, fun _ => ⟨rfl, rfl⟩⟩
  | integer number => exact ⟨.integer number, .integer number, fun _ => ⟨rfl, rfl⟩⟩
  | attributes identifier classes pairs =>
      have flat := @forall_parts_attributes (fun part => part.isObject = false) (fun _ => rfl)
        (fun _ => rfl) ⟨identifier, classes, pairs⟩
      refine ⟨.attributes ⟨identifier, classes, pairs⟩, .attributes (.array ⟨_, _, _⟩),
        fun _ => ⟨?_, rfl⟩⟩
      exact (Json.mapObjects_eq_self flat).symm
  | attributesObject lenient each =>
      rcases exists_readsAttributes each with ⟨attributes, reads⟩
      refine ⟨.attributes attributes, .attributes reads, fun documented => ?_⟩
      rw [documented] at lenient
      cases lenient
  | defaultWidth => exact ⟨.width .standard, .width (.refl _), fun _ => ⟨rfl, rfl⟩⟩
  | integerWidth perm =>
      have distinctMembers := (Json.distinctKeys_object.mp distinct).1
      exact ⟨.width (.integer _), .width perm, fun _ => restored_width perm distinctMembers⟩
  | floatWidth perm =>
      have distinctMembers := (Json.distinctKeys_object.mp distinct).1
      exact ⟨.width (.float _), .width perm, fun _ => restored_width perm distinctMembers⟩
  | tag known => exact ⟨.tag ⟨_, known⟩, .tag ⟨_, known⟩, fun _ => ⟨rfl, rfl⟩⟩
  | @bareNode place kind fits bare =>
      -- The kind is not known here, so its payload is only provably, not visibly, nothing.
      have written : ∀ payload : Tree kind.payload, (@Tree.node place kind payload).toJson =
          .object [("t", .string kind.name)] := by
        intro payload
        rw [toJson_node, members_of_bare bare]
      have perm : [("t", Json.string kind.name)].Perm (kind.members .null) := by
        rw [members_of_bare bare]
      have payload : Tree kind.payload := bare ▸ .nothing
      refine ⟨.node kind payload, .node (List.contains_iff_mem.mpr fits) perm
        (reads_of_nothing bare .null payload), fun _ => ⟨?_, ?_⟩⟩
      · rw [written, arrange_tag]
      · rw [written]
  | @node place kind members payload fits notBare perm inner ih =>
      have distinctMembers := (Json.distinctKeys_object.mp distinct).1
      have distinctPayload :=
        distinct_of_perm distinct perm (List.mem_cons_of_mem _ (List.mem_cons_self ..))
      rcases ih distinctPayload with ⟨tree, reads, restored⟩
      have permMembers : members.Perm (kind.members payload) := by
        rwa [members_of_not_bare notBare]
      refine ⟨.node kind tree, .node (List.contains_iff_mem.mpr fits) permMembers reads, ?_⟩
      intro documented
      exact restored_node perm distinctMembers notBare (restored documented)
  | @citation naming members values names perm inner ih =>
      have distinctMembers := (Json.distinctKeys_object.mp distinct).1
      have length : values.length = citationLabels.length := inner.length_tuple
      rcases ih (distinct_values distinct length perm) with ⟨fields, reads, restored⟩
      refine ⟨.citation fields, .citation (naming_of_allows names) perm reads, ?_⟩
      intro documented
      have preferred : citationLabels.map naming = citationNames := by
        rw [documented] at names
        exact map_naming_of_documented names
      rw [preferred] at perm
      exact restored_citation perm distinctMembers (restored documented)
  | @list element values each ih =>
      -- The grammar has lists as a whole, the reader has them element by element.
      have eachDistinct := Json.distinctKeys_array.mp distinct
      clear distinct each
      induction values with
      | nil => exact ⟨.nil, .nil, fun _ => ⟨rfl, rfl⟩⟩
      | cons value values ihValues =>
          rcases List.forall_mem_cons.mp ih with ⟨ihHead, ihTail⟩
          rcases List.forall_mem_cons.mp eachDistinct with ⟨here, there⟩
          rcases ihHead here with ⟨first, readsFirst, restoredFirst⟩
          rcases ihValues ihTail there with ⟨others, readsOthers, restoredOthers⟩
          refine ⟨.cons first others, .cons readsFirst readsOthers, fun documented => ?_⟩
          exact restored_cons (by rw [Tree.toJson]) (toJson_list others) (restoredFirst documented)
            (restoredOthers documented)
  | absent => exact ⟨.absent, .absent, fun _ => ⟨rfl, rfl⟩⟩
  | present notNull inner ih =>
      rcases ih distinct with ⟨tree, reads, restored⟩
      refine ⟨.present tree, .present notNull reads, fun documented => ?_⟩
      have inner := restored documented
      exact ⟨inner.arranged, inner.same⟩
  | done => exact ⟨.done, .done, fun _ => ⟨rfl, rfl⟩⟩
  | field head tail ihHead ihTail =>
      rcases List.forall_mem_cons.mp (Json.distinctKeys_array.mp distinct) with ⟨here, there⟩
      rcases ihHead here with ⟨first, readsFirst, restoredFirst⟩
      rcases ihTail (Json.distinctKeys_array.mpr there) with ⟨others, readsOthers, restoredOthers⟩
      refine ⟨.field first others, .field readsFirst readsOthers, fun documented => ?_⟩
      exact restored_cons (by rw [Tree.toJson]) (toJson_tuple others) (restoredFirst documented)
        (restoredOthers documented)

theorem sorted_cons_inj {first second : Json} {values others : List Json}
    (same : (Json.array (first :: values)).sorted = (Json.array (second :: others)).sorted) :
    first.sorted = second.sorted ∧ (Json.array values).sorted = (Json.array others).sorted := by
  rw [Json.sorted_array, Json.sorted_array, Json.array.injEq, List.map_cons, List.map_cons,
    List.cons.injEq] at same
  rw [Json.sorted_array, Json.sorted_array, Json.array.injEq]
  exact same

theorem sorted_tagged_inj {tag first second : Json}
    (same : (Json.object [("t", tag), ("c", first)]).sorted =
      (Json.object [("t", tag), ("c", second)]).sorted) : first.sorted = second.sorted := by
  have perm := (Json.sorted_object_eq_iff_perm (by simp [Keyed.keys])).mp same
  simp only [List.map_cons, List.map_nil, List.perm_cons, List.perm_singleton,
    List.singleton_inj] at perm
  exact congrArg Prod.snd perm

/-- A record that is the same up to the order of members has the preferred names, if it is compared
with one that has. -/
theorem record_of_sorted_eq {labels : List FieldName} (apart : labels.Pairwise FieldName.Apart)
    {naming : FieldName → String} {items values : List Json} (names : Naming labels naming)
    (length : items.length = labels.length) (lengthValues : values.length = labels.length)
    (same : (Json.object ((labels.map FieldName.name).zip items)).sorted =
      (Json.object ((labels.map naming).zip values)).sorted) :
    (∀ label ∈ labels, naming label = label.name) ∧
      items.map Json.sorted = values.map Json.sorted := by
  have distinct : (labels.map FieldName.name).Nodup := Naming.nodup (fun _ _ => .inl rfl) apart
  have distinctKeys : (Keyed.keys ((labels.map FieldName.name).zip items)).Nodup := by
    rwa [Keyed.keys_zip (by simp [length])]
  have perm := (Json.sorted_object_eq_iff_perm distinctKeys).mp same
  rw [map_sortedMember_zip, map_sortedMember_zip] at perm
  exact eq_of_record_perm apart names (by simp [length]) (by simp [lengthValues]) perm

theorem eq_of_givenOr {members : List (String × Json)} {name : String} {expected value : Json}
    {isDefault : Prop} (given : GivenOr members name expected isDefault)
    (found : Keyed.get? members name = some value) : value = expected := by
  rcases given with there | ⟨missing, -⟩
  · rw [found] at there
    exact Option.some.inj there
  · rw [found] at missing
    cases missing

theorem attributes_conform {value : Json} {attributes : Attributes} (distinct : value.DistinctKeys)
    (reads : ReadsAttributes value attributes) :
    Conforms .accepted .attributes value ∧
      (attributes.toJson.sorted = value.sorted → Conforms .documented .attributes value) := by
  cases reads with
  | array attributes => exact ⟨.attributes _ _ _, fun _ => .attributes _ _ _⟩
  | @object members attributes identifier classes pairs known =>
      constructor
      · apply Conforms.attributesObject rfl
        rintro ⟨key, value⟩ mem
        have found := Keyed.get?_of_mem (Json.distinctKeys_object.mp distinct).1 mem
        have knownKey := known key (Keyed.mem_keys_of_get? found)
        simp only [List.mem_cons, List.not_mem_nil, or_false] at knownKey
        rcases knownKey with rfl | rfl | rfl
        · rw [eq_of_givenOr identifier found]
          exact .identifier _
        · rw [eq_of_givenOr classes found]
          exact .classes _
        · rw [eq_of_givenOr pairs found]
          exact .pairs _
      · intro same
        rw [Json.sorted_object] at same
        cases same

theorem conforms_cons {form : Form} {element : Shape} {value : Json} {values : List Json}
    (head : Conforms form element value) (tail : Conforms form (.list element) (.array values)) :
    Conforms form (.list element) (.array (value :: values)) := by
  cases tail with
  | list each => exact .list (List.forall_mem_cons.mpr ⟨head, each⟩)

/-- Whatever is read conforms to the accepted form, and to the documented one if it is written again
up to the order of members. -/
theorem Reads.conforms {shape : Shape} (unambiguous : shape.unambiguous = true) {value : Json}
    {tree : Tree shape} (distinct : value.DistinctKeys) (reads : Reads value tree) :
    Conforms .accepted shape value ∧
      (tree.toJson.sorted = value.sorted → Conforms .documented shape value) := by
  induction reads with
  | text text => exact ⟨.text text, fun _ => .text text⟩
  | integer number => exact ⟨.integer number, fun _ => .integer number⟩
  | attributes given => exact attributes_conform distinct given
  | @width members width perm =>
      cases width with
      | standard =>
          rw [ColumnWidth.members, List.perm_singleton] at perm
          rw [perm]
          exact ⟨.defaultWidth, fun _ => .defaultWidth⟩
      | integer number => exact ⟨.integerWidth perm, fun _ => .integerWidth perm⟩
      | float number => exact ⟨.floatWidth perm, fun _ => .floatWidth perm⟩
  | tag tag => exact ⟨.tag tag.known, fun _ => .tag tag.known⟩
  | nothing value => cases unambiguous
  | @node place kind members value payload fits perm inner ih =>
      have distinctMembers := (Json.distinctKeys_object.mp distinct).1
      have belongs := List.contains_iff_mem.mp fits
      by_cases bare : kind.payload = .nothing
      · rw [members_of_bare bare, List.perm_singleton] at perm
        rw [perm]
        exact ⟨.bareNode belongs bare, fun _ => .bareNode belongs bare⟩
      · have distinctInner := distinct_of_perm distinct perm (payload_mem_members bare value)
        rw [members_of_not_bare bare] at perm
        rcases ih ((unambiguous_payload kind).resolve_left bare) distinctInner with
          ⟨accepted, documented⟩
        refine ⟨.node belongs bare perm accepted, fun same => .node belongs bare perm ?_⟩
        rw [toJson_node, members_of_not_bare bare, Json.sorted_perm distinctMembers perm] at same
        exact documented (sorted_tagged_inj same)
  | @citation naming members values fields names perm inner ih =>
      have distinctMembers := (Json.distinctKeys_object.mp distinct).1
      have length : values.length = citationLabels.length := inner.length_tuple
      rcases ih rfl (distinct_values distinct length perm) with ⟨accepted, documented⟩
      constructor
      · exact .citation (fun label mem => (names label mem).imp_right (⟨rfl, ·⟩)) perm accepted
      · intro same
        rw [Tree.toJson, Json.sorted_perm distinctMembers perm] at same
        rcases record_of_sorted_eq citationLabels_apart names (length_items fields) length same with
          ⟨preferred, sameValues⟩
        apply Conforms.citation (fun label mem => .inl (preferred label mem)) perm
        apply documented
        rw [toJson_tuple, Json.sorted_array, Json.sorted_array, sameValues]
  | nil => exact ⟨.list (by simp), fun _ => .list (by simp)⟩
  | @cons element value values first others head tail ihHead ihTail =>
      rcases List.forall_mem_cons.mp (Json.distinctKeys_array.mp distinct) with ⟨here, there⟩
      rcases ihHead unambiguous here with ⟨accepted, documented⟩
      rcases ihTail unambiguous (Json.distinctKeys_array.mpr there) with
        ⟨acceptedOthers, documentedOthers⟩
      constructor
      · exact conforms_cons accepted acceptedOthers
      · intro same
        rw [Tree.toJson] at same
        rcases sorted_cons_inj same with ⟨sameFirst, sameOthers⟩
        rw [← toJson_list] at sameOthers
        exact conforms_cons (documented sameFirst) (documentedOthers sameOthers)
  | absent => exact ⟨.absent, fun _ => .absent⟩
  | present notNull inner ih =>
      rw [Shape.unambiguous, Bool.and_eq_true] at unambiguous
      rcases ih unambiguous.1 distinct with ⟨accepted, documented⟩
      exact ⟨.present notNull accepted, fun same => .present notNull (documented same)⟩
  | done => exact ⟨.done, fun _ => .done⟩
  | @field shape shapes value values first others head tail ihHead ihTail =>
      rw [Shape.unambiguous, Shape.unambiguousMembers, Bool.and_eq_true] at unambiguous
      rcases List.forall_mem_cons.mp (Json.distinctKeys_array.mp distinct) with ⟨here, there⟩
      rcases ihHead unambiguous.1 here with ⟨accepted, documented⟩
      rcases ihTail unambiguous.2 (Json.distinctKeys_array.mpr there) with
        ⟨acceptedOthers, documentedOthers⟩
      constructor
      · exact .field accepted acceptedOthers
      · intro same
        rw [Tree.toJson] at same
        rcases sorted_cons_inj same with ⟨sameFirst, sameOthers⟩
        rw [← toJson_tuple] at sameOthers
        exact .field (documented sameFirst) (documentedOthers sameOthers)

theorem exists_readsBlocks {form : Form} {values : List Json}
    (each : ∀ value ∈ values, Conforms form (.node .block) value)
    (distinct : ∀ value ∈ values, value.DistinctKeys) :
    ∃ blocks, ReadsBlocks values blocks ∧ (form = .documented →
      blocks.map Tree.toJson = values.map arrange ∧
        (blocks.map Tree.toJson).map Json.sorted = values.map Json.sorted) := by
  induction values with
  | nil => exact ⟨[], .nil, fun _ => ⟨rfl, rfl⟩⟩
  | cons value values ih =>
      rcases List.forall_mem_cons.mp each with ⟨conforms, othersConform⟩
      rcases List.forall_mem_cons.mp distinct with ⟨here, there⟩
      rcases conforms.exists_reads here with ⟨block, reads, restored⟩
      rcases ih othersConform there with ⟨blocks, readsBlocks, restoredBlocks⟩
      refine ⟨block :: blocks, .cons reads readsBlocks, fun documented => ?_⟩
      rcases restored documented with ⟨arranged, same⟩
      rcases restoredBlocks documented with ⟨allArranged, allSame⟩
      simp only [List.map_cons, arranged, allArranged, true_and]
      rw [← arranged, same, ← allArranged, allSame]

/-- Whatever conforms to a grammar of documents is read as a document. -/
theorem ConformsDocument.exists_reads {form : Form} {value : Json}
    (conforms : ConformsDocument form value) (distinct : value.DistinctKeys) :
    ∃ document, ReadsDocument value document ∧ (form = .documented →
      document.toJson = arrangeDocument value ∧ document.toJson.sorted = value.sorted) := by
  rcases conforms with @⟨naming, members, version, metadata, values, names, perm, each⟩
  have distinctMembers := (Json.distinctKeys_object.mp distinct).1
  have distinctEach := Json.distinctKeys_array.mp (distinct_blocks distinct perm)
  rcases exists_readsBlocks each distinctEach with ⟨blocks, reads, restored⟩
  refine ⟨⟨version, metadata, blocks⟩, .mk (naming_of_allows names) perm reads, ?_⟩
  intro documented
  rw [documented] at names
  have preferred : ∀ label ∈ documentLabels, naming label = label.name := by
    intro label mem
    exact (names label mem).resolve_right fun ⟨lenient, _⟩ => Form.noConfusion lenient
  rcases restored documented with ⟨arranged, same⟩
  simp only [List.forall_mem_cons, List.not_mem_nil, false_imp_iff, implies_true, and_true]
    at preferred
  rcases preferred with ⟨versionName, metadataName, blocksName⟩
  rw [versionName, metadataName, blocksName] at perm
  constructor
  · rw [arrangeDocument, inOrder_perm perm distinctMembers, Document.toJson, arranged,
      ← arrange_array]
    rfl
  · rw [Json.sorted_perm distinctMembers perm, Json.sorted_object, Document.toJson,
      Json.sorted_object]
    simp only [List.map_cons, List.map_nil, Json.sortedMember, Json.sorted_array, same]
    rfl

theorem ReadsBlocks.conform {values : List Json} {blocks : List Block}
    (reads : ReadsBlocks values blocks) (distinct : ∀ value ∈ values, value.DistinctKeys) :
    (∀ value ∈ values, Conforms .accepted (.node .block) value) ∧
      ((blocks.map Tree.toJson).map Json.sorted = values.map Json.sorted →
        ∀ value ∈ values, Conforms .documented (.node .block) value) := by
  induction reads with
  | nil => exact ⟨by simp, by simp⟩
  | cons head tail ih =>
      rcases List.forall_mem_cons.mp distinct with ⟨here, there⟩
      rcases head.conforms rfl here with ⟨accepted, documented⟩
      rcases ih there with ⟨othersAccepted, othersDocumented⟩
      refine ⟨List.forall_mem_cons.mpr ⟨accepted, othersAccepted⟩, ?_⟩
      intro same
      simp only [List.map_cons, List.cons.injEq] at same
      exact List.forall_mem_cons.mpr ⟨documented same.1, othersDocumented same.2⟩

/-- Whatever is read as a document conforms to the accepted form, and to the documented one if it is
written again up to the order of members. -/
theorem ReadsDocument.conforms {value : Json} {document : Document}
    (reads : ReadsDocument value document) (distinct : value.DistinctKeys) :
    ConformsDocument .accepted value ∧
      (document.toJson.sorted = value.sorted → ConformsDocument .documented value) := by
  rcases reads with @⟨naming, members, values, _, names, perm, blocks⟩
  have distinctMembers := (Json.distinctKeys_object.mp distinct).1
  rcases blocks.conform (Json.distinctKeys_array.mp (distinct_blocks distinct perm)) with
    ⟨accepted, documented⟩
  constructor
  · exact .mk (fun label mem => (names label mem).imp_right (⟨rfl, ·⟩)) perm accepted
  · intro same
    rw [Json.sorted_perm distinctMembers perm] at same
    have written : document.toJson = .object ((documentLabels.map FieldName.name).zip
        [.array (document.version.map .integer), .object document.metadata,
          .array (document.blocks.map Tree.toJson)]) := rfl
    rw [written] at same
    rcases record_of_sorted_eq documentLabels_apart names (by rfl) (by rfl) same with
      ⟨preferred, sameValues⟩
    simp only [List.map_cons, List.map_nil, List.cons.injEq, and_true] at sameValues
    have sameBlocks := sameValues.2.2
    rw [Json.sorted_array, Json.sorted_array, Json.array.injEq] at sameBlocks
    exact .mk (fun label mem => .inl (preferred label mem)) perm (documented sameBlocks)

/-- Whatever is read of a value of the documented form is written up to the order of members. -/
theorem ReadsDocument.sorted_eq_of_documented {value : Json} {document : Document}
    (reads : ReadsDocument value document) (distinct : value.DistinctKeys)
    (conforms : ConformsDocument .documented value) : document.toJson.sorted = value.sorted := by
  rcases conforms.exists_reads distinct with ⟨same, readsSame, restored⟩
  have read := (document_ofJson_eq_valid_iff distinct).mpr reads
  have readSame := (document_ofJson_eq_valid_iff distinct).mpr readsSame
  rw [read] at readSame
  cases readSame
  exact (restored rfl).2

end DocHighlight.Document
