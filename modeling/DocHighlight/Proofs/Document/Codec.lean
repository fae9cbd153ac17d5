import DocHighlight.Document.Codec
import DocHighlight.Proofs.Document.Reading
import DocHighlight.Proofs.Json.Invariant
import DocHighlight.Proofs.Json.Meaning

/-!
# Between texts and documents

Decoding an input gives a document exactly if the input has a value that is read as the document.
What is written again has distinct keys, has no floating-point numbers unless the value had some,
and is at most one level deeper than the value: attributes that were given as an object become an
array, which may be deeper. So whatever has been decoded can be encoded.
-/

namespace DocHighlight

open Document

/-- An input spells a value within the limits of the reader. -/
def Input.Spells : Input → Json → Prop
  | .bytes given, value =>
      ∃ text, Text.Utf8.decode given = .ok text ∧ Json.Spells .standard text value
  | .characters text, value => Json.Spells .standard text value

/-- The value that is read from an input. -/
def Input.Parses : Input → Json → Prop
  | .bytes given, value => ∃ text, Text.Utf8.decode given = .ok text ∧ Json.parse text = .ok value
  | .characters text, value => Json.parse text = .ok value

namespace Input

theorem Parses.exists_text {input : Input} {value : Json} (parses : input.Parses value) :
    ∃ text, Json.parse text = .ok value := by
  cases input with
  | bytes bytes =>
      rcases parses with ⟨text, -, parsed⟩
      exact ⟨text, parsed⟩
  | characters text => exact ⟨text, parses⟩

theorem Parses.distinct {input : Input} {value : Json} (parses : input.Parses value) :
    value.DistinctKeys := by
  rcases parses.exists_text with ⟨text, parsed⟩
  exact Json.distinctKeys_of_parse parsed

theorem Parses.height_le {input : Input} {value : Json} (parses : input.Parses value) :
    value.height ≤ 201 := by
  rcases parses.exists_text with ⟨text, parsed⟩
  exact Json.height_le_of_parse parsed

theorem Parses.digits {input : Input} {value : Json} (parses : input.Parses value) :
    ∀ part ∈ value.parts, part.digitCount ≤ Json.Limits.standard.digits := by
  rcases parses.exists_text with ⟨text, parsed⟩
  exact Json.digits_of_parse parsed

theorem Parses.unique {input : Input} {first second : Json} (parsesFirst : input.Parses first)
    (parsesSecond : input.Parses second) : first = second := by
  cases input with
  | bytes bytes =>
      rcases parsesFirst with ⟨text, decoded, parsed⟩
      rcases parsesSecond with ⟨same, again, parsedSame⟩
      rw [decoded] at again
      cases again
      rw [parsed] at parsedSame
      exact Except.ok.inj parsedSame
  | characters text =>
      rw [Parses] at parsesFirst parsesSecond
      rw [parsesFirst] at parsesSecond
      exact Except.ok.inj parsesSecond

theorem Spells.parses {input : Input} {value : Json} (spelled : input.Spells value) :
    input.Parses value := by
  cases input with
  | bytes given =>
      rcases spelled with ⟨text, decoded, spelled⟩
      exact ⟨text, decoded, Json.parse_of_spells spelled⟩
  | characters text => exact Json.parse_of_spells spelled

theorem spells_encode {text : List Char} {value : Json}
    (spelled : Json.Spells .standard text value) :
    (bytes (Text.Utf8.encode text)).Spells value :=
  ⟨text, Text.Utf8.decode_encode text, spelled⟩

end Input

namespace Document

theorem decodeText_eq_ok_iff {text : List Char} {document : Document} :
    decodeText text = .ok document ↔
      ∃ value, Json.parse text = .ok value ∧ ReadsDocument value document := by
  rw [decodeText]
  cases parsed : Json.parse text with
  | error fault => simp
  | ok value =>
      have distinct := Json.distinctKeys_of_parse parsed
      have readsIff := @document_ofJson_eq_valid_iff value document distinct
      simp only [Except.ok.injEq, exists_eq_left', ← readsIff]
      cases Document.ofJson value <;> simp

/-- Decoding gives a document exactly if the value of the input is read as that document. -/
theorem decode_eq_ok_iff {input : Input} {document : Document} :
    decode input = .ok document ↔ ∃ value, input.Parses value ∧ ReadsDocument value document := by
  cases input with
  | bytes bytes =>
      simp only [decode, decodeBytes, Input.Parses]
      cases decoded : Text.Utf8.decode bytes with
      | error cause => simp
      | ok text =>
          simp only [decodeText_eq_ok_iff, Except.ok.injEq]
          constructor
          · rintro ⟨value, parsed, reads⟩
            exact ⟨value, ⟨text, rfl, parsed⟩, reads⟩
          · rintro ⟨value, ⟨_, rfl, parsed⟩, reads⟩
            exact ⟨value, parsed, reads⟩
  | characters text => exact decodeText_eq_ok_iff

/-- What is found in whatever an input decodes to. -/
theorem exists_of_toOption_decode {α : Type} {input : Input} {look : Document → α} {seen : α}
    (found : (decode input).toOption.map look = some seen) :
    ∃ document, decode input = .ok document ∧ look document = seen := by
  cases decoded : decode input with
  | error problem =>
      rw [decoded] at found
      cases found
  | ok document =>
      rw [decoded] at found
      exact ⟨document, rfl, Option.some.inj found⟩

theorem nodeToJson_eq (kind : NodeKind) (payload : Json) :
    nodeToJson kind.name kind.payload payload = .object (kind.members payload) := by
  rw [nodeToJson.eq_def, NodeKind.members]
  cases kind.payload <;> rfl

theorem toJson_node {place : Place} (kind : NodeKind) (payload : Tree kind.payload) :
    (@Tree.node place kind payload).toJson = .object (kind.members payload.toJson) := by
  rw [Tree.toJson, nodeToJson_eq]

theorem toJson_list {element : Shape} (tree : Tree (.list element)) :
    tree.toJson = .array tree.items := by
  cases tree <;> simp only [Tree.toJson, Tree.items]

theorem toJson_tuple {shapes : List Shape} (tree : Tree (.tuple shapes)) :
    tree.toJson = .array tree.items := by
  cases tree <;> simp only [Tree.toJson, Tree.items]

theorem length_items {shapes : List Shape} (tree : Tree (.tuple shapes)) :
    tree.items.length = shapes.length := by
  induction shapes with
  | nil =>
      cases tree
      simp only [Tree.items, List.length_nil]
  | cons shape shapes ih =>
      cases tree with
      | field first others => rw [Tree.items, List.length_cons, List.length_cons, ih others]

theorem keys_members (kind : NodeKind) (value : Json) :
    (Keyed.keys (kind.members value)).Nodup := by
  rw [NodeKind.members]
  split <;> simp [Keyed.keys]

theorem members_of_not_bare {kind : NodeKind} (notBare : kind.payload ≠ .nothing) (value : Json) :
    kind.members value = [("t", .string kind.name), ("c", value)] := by
  rw [NodeKind.members]
  split
  · rename_i bare
    exact absurd bare notBare
  · rfl

theorem members_of_bare {kind : NodeKind} (bare : kind.payload = .nothing) (value : Json) :
    kind.members value = [("t", .string kind.name)] := by
  rw [NodeKind.members, bare]

/-- What stands in a node beside its name is its payload. -/
theorem mem_members {kind : NodeKind} {value : Json} {member : String × Json}
    (mem : member ∈ kind.members value) :
    member = ("t", .string kind.name) ∨ member = ("c", value) ∧ kind.payload ≠ .nothing := by
  rw [NodeKind.members] at mem
  split at mem
  · exact .inl (by simpa using mem)
  · rename_i notBare
    rcases List.mem_cons.mp mem with same | mem
    · exact .inl same
    · exact .inr ⟨by simpa using mem, fun bare => notBare bare⟩

/-- A change that leaves strings alone does not change the name of a node. -/
theorem map_members {change : Json → Json} (strings : ∀ text, change (.string text) = .string text)
    (kind : NodeKind) (value : Json) :
    (kind.members value).map (fun member => (member.1, change member.2)) =
      kind.members (change value) := by
  rw [NodeKind.members, NodeKind.members]
  split <;> simp only [List.map_cons, List.map_nil, strings]

/-- In attributes there are only arrays and strings. -/
theorem forall_parts_attributes {p : Json → Prop} (arrays : ∀ elements, p (.array elements))
    (strings : ∀ text, p (.string text)) (attributes : Attributes) :
    ∀ part ∈ attributes.toJson.parts, p part := by
  have text : ∀ text : String, ∀ part ∈ (Json.string text).parts, p part := by
    intro text part mem
    rw [List.mem_singleton.mp mem]
    exact strings text
  have array : ∀ elements : List Json, (∀ element ∈ elements, ∀ part ∈ element.parts, p part) →
      ∀ part ∈ (Json.array elements).parts, p part :=
    fun elements each => Json.forall_parts_array.mpr ⟨arrays elements, each⟩
  rw [Attributes.toJson]
  apply array
  simp only [List.forall_mem_cons, List.not_mem_nil, false_imp_iff, implies_true, and_true]
  refine ⟨text _, array _ ?_, array _ ?_⟩
  · simp only [List.forall_mem_map]
    intro _ _
    exact text _
  · simp only [List.forall_mem_map]
    intro pair _
    apply array
    simp only [List.forall_mem_cons, List.not_mem_nil, false_imp_iff, implies_true, and_true]
    exact ⟨text _, text _⟩

theorem citation_length {values : List Json}
    {fields : Tree (.tuple (citationFields.map CitationField.shape))}
    (inner : Reads (.array values) fields) (naming : FieldName → String) :
    values.length ≤ (citationLabels.map naming).length := by
  have length := inner.length_tuple
  simp only [List.length_map] at length ⊢
  omega

theorem keys_zip_items (fields : Tree (.tuple (citationFields.map CitationField.shape))) :
    Keyed.keys (citationNames.zip fields.items) = citationNames := by
  apply Keyed.keys_zip
  rw [length_items fields]
  decide

/-- What is written has distinct keys. -/
theorem toJson_distinct {shape : Shape} (tree : Tree shape) : tree.toJson.DistinctKeys := by
  have string : ∀ text : String, (Json.string text).DistinctKeys :=
    fun text => Json.distinctKeys_of_scalar rfl rfl
  induction tree with
  | text | integer | nothing | absent => exact Json.distinctKeys_of_scalar rfl rfl
  | nil | done => exact Json.distinctKeys_array.mpr (by simp)
  | attributes attributes =>
      exact forall_parts_attributes (fun _ => List.nodup_nil) (fun _ => List.nodup_nil) attributes
  | width width =>
      cases width <;> refine Json.distinctKeys_object.mpr ⟨by simp [Keyed.keys], ?_⟩ <;>
        simp only [List.forall_mem_cons, List.not_mem_nil, false_imp_iff, implies_true, and_true]
      · exact string _
      · exact ⟨string _, Json.distinctKeys_of_scalar rfl rfl⟩
      · exact ⟨string _, Json.distinctKeys_of_scalar rfl rfl⟩
  | tag tag =>
      refine Json.distinctKeys_object.mpr ⟨by simp [Keyed.keys], ?_⟩
      simp only [List.forall_mem_cons, List.not_mem_nil, false_imp_iff, implies_true, and_true]
      exact string _
  | node kind payload ih =>
      rw [toJson_node, Json.distinctKeys_object]
      refine ⟨keys_members kind _, ?_⟩
      intro member mem
      rcases mem_members mem with rfl | ⟨rfl, -⟩
      · exact string _
      · exact ih
  | citation fields ih =>
      rw [toJson_tuple, Json.distinctKeys_array] at ih
      rw [Tree.toJson, Json.distinctKeys_object, keys_zip_items]
      refine ⟨by decide, ?_⟩
      intro member mem
      exact ih _ (List.of_mem_zip mem).2
  | cons first others ihFirst ihOthers =>
      rw [toJson_list, Json.distinctKeys_array] at ihOthers
      rw [Tree.toJson, Json.distinctKeys_array]
      exact List.forall_mem_cons.mpr ⟨ihFirst, ihOthers⟩
  | present value ih => rwa [Tree.toJson]
  | field first others ihFirst ihOthers =>
      rw [toJson_tuple, Json.distinctKeys_array] at ihOthers
      rw [Tree.toJson, Json.distinctKeys_array]
      exact List.forall_mem_cons.mpr ⟨ihFirst, ihOthers⟩

theorem toJson_width (width : ColumnWidth) : width.toJson = .object width.members := by
  cases width <;> rfl

theorem Reads.wellPlaced {shape : Shape} {value : Json} {tree : Tree shape}
    (reads : Reads value tree) : tree.wellPlaced = true := by
  induction reads with
  | node fits perm inner ih => simp only [Tree.wellPlaced, fits, ih, Bool.and_self]
  | citation names perm inner ih => rwa [Tree.wellPlaced]
  | cons head tail ihHead ihTail | field head tail ihHead ihTail =>
      simp only [Tree.wellPlaced, ihHead, ihTail, Bool.and_self]
  | present notNull inner ih => rwa [Tree.wellPlaced]
  | _ => simp only [Tree.wellPlaced]

/-- No number comes from anything but a number. -/
theorem Reads.forall_parts {p : Json → Prop} (numbers : Json.OfNumbers p) {shape : Shape}
    {value : Json} {tree : Tree shape} (reads : Reads value tree)
    (all : ∀ part ∈ value.parts, p part) : ∀ part ∈ tree.toJson.parts, p part := by
  induction reads with
  | text | integer | absent | tag => exact all
  | nothing => exact numbers.parts_null
  | nil | done => exact numbers.parts_array.mpr (by simp)
  | attributes => exact forall_parts_attributes numbers.array numbers.string _
  | width perm =>
      rw [Tree.toJson, toJson_width]
      exact (numbers.parts_perm perm).mp all
  | @node place kind members value payload fits perm inner ih =>
      rw [toJson_node, numbers.parts_object]
      intro member mem
      rcases mem_members mem with rfl | ⟨rfl, notBare⟩
      · exact numbers.parts_string _
      · have here := numbers.parts_object.mp ((numbers.parts_perm perm).mp all)
        exact ih (here _ (payload_mem_members notBare value))
  | @citation naming members values fields names perm inner ih =>
      have each := numbers.parts_object.mp ((numbers.parts_perm perm).mp all)
      have allValues : ∀ part ∈ (Json.array values).parts, p part := by
        rw [numbers.parts_array]
        intro value mem
        rcases exists_name_of_mem (citation_length inner naming) mem with ⟨name, there⟩
        exact each _ there
      have allItems := ih allValues
      rw [toJson_tuple, numbers.parts_array] at allItems
      rw [Tree.toJson, numbers.parts_object]
      intro member mem
      exact allItems _ (List.of_mem_zip mem).2
  | cons head tail ihHead ihTail | field head tail ihHead ihTail =>
      rcases List.forall_mem_cons.mp (numbers.parts_array.mp all) with ⟨here, there⟩
      have rest := ihTail (numbers.parts_array.mpr there)
      simp only [toJson_list, toJson_tuple, numbers.parts_array] at rest
      rw [Tree.toJson, numbers.parts_array]
      exact List.forall_mem_cons.mpr ⟨ihHead here, rest⟩
  | present notNull inner ih =>
      rw [Tree.toJson]
      exact ih all

theorem height_le_of_givenOr {members : List (String × Json)} {name : String} {value : Json}
    {isDefault : Prop} (given : GivenOr members name value isDefault)
    (flat : isDefault → value.height = 1) : value.height ≤ (Json.object members).height := by
  rcases given with found | ⟨-, byDefault⟩
  · exact Nat.le_of_succ_le (Json.height_le_of_mem_members (Keyed.mem_of_get? found))
  · rw [flat byDefault]
    exact Json.one_le_height _

/-- Only attributes that were given as an object may become deeper. -/
theorem ReadsAttributes.height_le {value : Json} {attributes : Attributes}
    (reads : ReadsAttributes value attributes) : attributes.toJson.height ≤ value.height + 1 := by
  cases reads with
  | array => exact Nat.le_succ _
  | object identifier classes pairs known =>
      apply Json.height_array_le_iff.mpr
      simp only [List.forall_mem_cons, List.not_mem_nil, false_imp_iff, implies_true, and_true]
      refine ⟨height_le_of_givenOr identifier fun _ => rfl, height_le_of_givenOr classes ?_,
        height_le_of_givenOr pairs ?_⟩
      · intro empty
        rw [empty]
        rfl
      · intro empty
        rw [empty]
        rfl

/-- What is written is at most one level deeper. -/
theorem Reads.height_le {shape : Shape} {value : Json} {tree : Tree shape}
    (reads : Reads value tree) : tree.toJson.height ≤ value.height + 1 := by
  induction reads with
  | text | integer | absent | nil | done | tag => exact Nat.le_succ _
  | nothing value => exact Nat.le_add_left ..
  | attributes given => exact given.height_le
  | width perm =>
      rw [Tree.toJson, toJson_width, Json.height_perm perm]
      exact Nat.le_succ _
  | @node place kind members value payload fits perm inner ih =>
      rw [toJson_node, Json.height_perm perm, Json.height_object_le_iff]
      intro member mem
      rcases mem_members mem with rfl | ⟨rfl, notBare⟩
      · exact Json.one_le_height _
      · have inside := Json.height_le_of_mem_members (payload_mem_members notBare value)
        exact Nat.le_trans ih inside
  | @citation naming members values fields names perm inner ih =>
      rw [toJson_tuple] at ih
      have inside : (Json.array values).height ≤ (Json.object members).height := by
        rw [Json.height_perm perm, Json.height, Json.height, Nat.add_le_add_iff_right,
          Json.heightOfElements_le_iff]
        intro value mem
        rcases exists_name_of_mem (citation_length inner naming) mem with ⟨name, there⟩
        exact Json.heightOfMembers_le_iff.mp (Nat.le_refl _) _ there
      rw [Tree.toJson, Json.height_object_le_iff]
      intro member mem
      have item := Json.height_le_of_mem_elements (List.of_mem_zip mem).2
      omega
  | cons head tail ihHead ihTail =>
      rw [toJson_list] at ihTail
      rw [Tree.toJson, Json.height_cons, Json.height_cons]
      omega
  | field head tail ihHead ihTail =>
      rw [toJson_tuple] at ihTail
      rw [Tree.toJson, Json.height_cons, Json.height_cons]
      omega
  | present notNull inner ih => rwa [Tree.toJson]

theorem ReadsBlocks.exists_of_mem {values : List Json} {blocks : List Block}
    (reads : ReadsBlocks values blocks) {block : Block} (mem : block ∈ blocks) :
    ∃ value ∈ values, Reads value block := by
  induction reads with
  | nil => cases mem
  | cons head tail ih =>
      rcases List.mem_cons.mp mem with rfl | mem
      · exact ⟨_, List.mem_cons_self .., head⟩
      · rcases ih mem with ⟨value, there, reads⟩
        exact ⟨value, List.mem_cons_of_mem _ there, reads⟩

theorem document_toJson_distinct {document : Document}
    (distinct : (Json.object document.metadata).DistinctKeys) : document.toJson.DistinctKeys := by
  rw [Document.toJson, Json.distinctKeys_object]
  refine ⟨by simp [Keyed.keys], ?_⟩
  simp only [List.forall_mem_cons, List.not_mem_nil, false_imp_iff, implies_true, and_true]
  refine ⟨?_, distinct, ?_⟩
  · rw [Json.distinctKeys_array, List.forall_mem_map]
    intro _ _
    exact Json.distinctKeys_of_scalar rfl rfl
  · rw [Json.distinctKeys_array, List.forall_mem_map]
    intro block _
    exact toJson_distinct block

namespace ReadsDocument

variable {value : Json} {document : Document}

theorem wellPlaced (reads : ReadsDocument value document) :
    ∀ block ∈ document.blocks, block.wellPlaced = true := by
  rcases reads with ⟨names, perm, blocks⟩
  intro block mem
  rcases blocks.exists_of_mem mem with ⟨value, -, reads⟩
  exact reads.wellPlaced

theorem distinct_metadata (reads : ReadsDocument value document) (distinct : value.DistinctKeys) :
    (Json.object document.metadata).DistinctKeys := by
  rcases reads with @⟨naming, members, values, _, names, perm, blocks⟩
  have held : (naming metadataField, Json.object document.metadata) ∈
      (documentLabels.map naming).zip
        [.array (document.version.map .integer), .object document.metadata, .array values] →
      (Json.object document.metadata).DistinctKeys := distinct_of_perm distinct perm
  apply held
  simp

theorem forall_parts {p : Json → Prop} (numbers : Json.OfNumbers p)
    (reads : ReadsDocument value document) (all : ∀ part ∈ value.parts, p part) :
    ∀ part ∈ document.toJson.parts, p part := by
  rcases reads with ⟨names, perm, blocks⟩
  have each := numbers.parts_object.mp ((numbers.parts_perm perm).mp all)
  simp only [List.map_cons, List.map_nil, List.zip_cons_cons, List.zip_nil_right,
    List.forall_mem_cons, List.not_mem_nil, false_imp_iff, implies_true, and_true] at each
  rcases each with ⟨version, metadata, values⟩
  rw [Document.toJson, numbers.parts_object]
  simp only [List.forall_mem_cons, List.not_mem_nil, false_imp_iff, implies_true, and_true]
  refine ⟨version, metadata, ?_⟩
  rw [numbers.parts_array, List.forall_mem_map]
  intro block mem
  rcases blocks.exists_of_mem mem with ⟨value, there, reads⟩
  exact reads.forall_parts numbers (numbers.parts_array.mp values value there)

/-- No floating-point number comes from anything else. -/
theorem integral (reads : ReadsDocument value document) (integral : value.Integral) :
    document.toJson.Integral :=
  reads.forall_parts Json.ofNumbers_isFloat integral

/-- The blocks and the metadata of a document are less deep than the value that it was read from,
but for what attributes may add. -/
theorem height_le (reads : ReadsDocument value document) :
    (∀ block ∈ document.blocks, block.toJson.height + 1 ≤ value.height) ∧
      ∀ member ∈ document.metadata, member.2.height + 2 ≤ value.height := by
  rcases reads with ⟨names, perm, blocks⟩
  have each := fun member mem => @Json.height_le_of_mem_members _ member
    (perm.mem_iff.mpr mem)
  simp only [List.map_cons, List.map_nil, List.zip_cons_cons, List.zip_nil_right,
    List.forall_mem_cons, List.not_mem_nil, false_imp_iff, implies_true, and_true] at each
  rcases each with ⟨-, metadata, values⟩
  constructor
  · intro block mem
    rcases blocks.exists_of_mem mem with ⟨value, there, reads⟩
    have inside := Json.height_le_of_mem_elements there
    have close := reads.height_le
    omega
  · intro member mem
    have inside := Json.height_le_of_mem_members mem
    omega

end ReadsDocument

theorem levels_eq_height {block : Block} (placed : block.wellPlaced = true) :
    block.levels = block.toJson.height := by
  cases block with
  | node kind payload =>
      simp only [Tree.wellPlaced, Bool.and_eq_true] at placed
      rw [Tree.levels, if_pos placed.1]

/-- Nothing in a document is so deep that it cannot be written. -/
structure Shallow (document : Document) : Prop where
  metadata : ∀ member ∈ document.metadata, member.2.height ≤ levelLimit
  blocks : ∀ block ∈ document.blocks, block.levels ≤ levelLimit

section Shallow

variable {document : Document}

theorem encodeText?_of_shallow (shallow : Shallow document) :
    document.encodeText? = .ok document.encodeText := by
  apply if_pos
  simp only [Bool.and_eq_true, List.all_eq_true, decide_eq_true_eq]
  exact ⟨shallow.metadata, shallow.blocks⟩

theorem encodeText?_of_not_shallow (deep : ¬ Shallow document) :
    document.encodeText? = .error .tooDeep := by
  apply if_neg
  simp only [Bool.and_eq_true, List.all_eq_true, decide_eq_true_eq]
  rintro ⟨metadata, blocks⟩
  exact deep ⟨metadata, blocks⟩

/-- Where all nodes are in their places, it is the height of the blocks that counts. -/
theorem Shallow.of_height_le (placed : ∀ block ∈ document.blocks, block.wellPlaced = true)
    (blocks : ∀ block ∈ document.blocks, block.toJson.height ≤ levelLimit)
    (metadata : ∀ member ∈ document.metadata, member.2.height ≤ levelLimit) :
    Shallow document where
  metadata := metadata
  blocks block mem := by
    rw [levels_eq_height (placed block mem)]
    exact blocks block mem

end Shallow

/-- A document with all nodes in their places can be encoded if nothing in it is too deep. -/
theorem encodeText?_eq_ok {document : Document}
    (placed : ∀ block ∈ document.blocks, block.wellPlaced = true)
    (blocks : ∀ block ∈ document.blocks, block.toJson.height ≤ levelLimit)
    (metadata : ∀ member ∈ document.metadata, member.2.height ≤ levelLimit) :
    document.encodeText? = .ok document.encodeText :=
  encodeText?_of_shallow (.of_height_le placed blocks metadata)

/-- In a decoded document every node is in its place and nothing is too deep to be written. -/
theorem shallow_of_decode {input : Input} {document : Document}
    (decoded : decode input = .ok document) :
    (∀ block ∈ document.blocks, block.wellPlaced = true) ∧
      (∀ block ∈ document.blocks, block.toJson.height ≤ levelLimit) ∧
      ∀ member ∈ document.metadata, member.2.height ≤ levelLimit := by
  rcases decode_eq_ok_iff.mp decoded with ⟨value, parses, reads⟩
  have shallow := parses.height_le
  rcases reads.height_le with ⟨blocks, metadata⟩
  refine ⟨reads.wellPlaced, ?_, ?_⟩
  · intro block mem
    have inside := blocks block mem
    rw [levelLimit]
    omega
  · intro member mem
    have inside := metadata member mem
    rw [levelLimit]
    omega

theorem Shallow.of_decode {input : Input} {document : Document}
    (decoded : decode input = .ok document) : Shallow document := by
  rcases shallow_of_decode decoded with ⟨placed, blocks, metadata⟩
  exact .of_height_le placed blocks metadata

/-- Whatever has been decoded can be encoded. -/
theorem encodeText?_of_decode {input : Input} {document : Document}
    (decoded : decode input = .ok document) : document.encodeText? = .ok document.encodeText :=
  encodeText?_of_shallow (.of_decode decoded)

end Document

end DocHighlight
