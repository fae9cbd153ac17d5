import DocHighlight.Proofs.Document.Conformance
import DocHighlight.Proofs.Json.Rereading

/-!
# Reading a written tree again

Whether a value is read as some tree of its shape can be told part by part: a node by its payload,
a citation by its fields, a list or a tuple by what stands in it. A written tree is therefore read
again exactly if its column widths are: when the text of a tree is read, its floating-point numbers
are what their spelling says, and an infinite or undefined number is spelled `null`, which is no
width.
-/

namespace DocHighlight.Document

/-- Whether a column width is neither infinite nor undefined. -/
def ColumnWidth.isFinite : ColumnWidth → Bool
  | .standard | .integer _ => true
  | .float value => value.isFinite

/-- The column widths in a tree. -/
def Tree.widths {shape : Shape} : Tree shape → List ColumnWidth
  | .width value => [value]
  | .node _ payload => payload.widths
  | .citation fields => fields.widths
  | .cons first others => first.widths ++ others.widths
  | .present value => value.widths
  | .field value more => value.widths ++ more.widths
  | .text _ | .integer _ | .attributes _ | .tag _ | .nothing | .nil | .absent | .done => []

theorem widths_of_nothing {shape : Shape} (bare : shape = .nothing) (tree : Tree shape) :
    tree.widths = [] := by
  subst bare
  cases tree
  rw [Tree.widths]

/-- A value is read as some tree of a shape. -/
def Readable (shape : Shape) (value : Json) : Prop :=
  ∃ tree : Tree shape, Reads value tree

/-- The members of a node tell its kind, and its payload if there is one. -/
theorem eq_of_members_perm {kind other : NodeKind} {place : Place} {value payload : Json}
    (fits : kind.fits place = true) (otherFits : other.fits place = true)
    (perm : (kind.members value).Perm (other.members payload)) :
    kind = other ∧ (kind.payload ≠ .nothing → value = payload) := by
  have named : ∀ (kind : NodeKind) (value : Json),
      Keyed.get? (kind.members value) "t" = some (.string kind.name) := by
    intro kind value
    rw [NodeKind.members]
    split <;> rfl
  have names := Keyed.get?_perm perm (keys_members kind value) "t"
  rw [named, named, Option.some.injEq, Json.string.injEq] at names
  have found := kindNamed?_name place kind (List.contains_iff_mem.mp fits)
  rw [names, kindNamed?_name place other (List.contains_iff_mem.mp otherFits)] at found
  cases Option.some.inj found
  refine ⟨rfl, fun notBare => ?_⟩
  rw [members_of_not_bare notBare, members_of_not_bare notBare, List.perm_cons,
    List.perm_singleton, List.singleton_inj] at perm
  exact congrArg Prod.snd perm

theorem readable_node {place : Place} {kind : NodeKind} {value : Json}
    (fits : kind.fits place = true) :
    Readable (.node place) (.object (kind.members value)) ↔ Readable kind.payload value := by
  constructor
  · rintro ⟨tree, reads⟩
    cases reads with
    | @node _ other _ payload tree otherFits perm inner =>
        rcases eq_of_members_perm fits otherFits perm with ⟨rfl, same⟩
        by_cases bare : kind.payload = .nothing
        · exact ⟨tree, reads_of_nothing bare value tree⟩
        · rw [same bare]
          exact ⟨tree, inner⟩
  · rintro ⟨tree, reads⟩
    exact ⟨.node kind tree, .node fits (.refl _) reads⟩

theorem readable_citation {values : List Json} (length : values.length = citationLabels.length) :
    Readable .citation (.object (citationNames.zip values)) ↔
      Readable (.tuple (citationFields.map CitationField.shape)) (.array values) := by
  constructor
  · rintro ⟨tree, reads⟩
    cases reads with
    | @citation naming _ others fields names perm inner =>
        have lengthOthers : others.length = citationLabels.length := inner.length_tuple
        have same := (eq_of_record_perm citationLabels_apart names length lengthOthers perm).2
        rw [same]
        exact ⟨fields, inner⟩
  · rintro ⟨fields, reads⟩
    exact ⟨.citation fields, .citation (fun _ _ => .inl rfl) (.refl _) reads⟩

theorem readable_cons {element : Shape} {value : Json} {values : List Json} :
    Readable (.list element) (.array (value :: values)) ↔
      Readable element value ∧ Readable (.list element) (.array values) := by
  constructor
  · rintro ⟨tree, reads⟩
    cases reads with
    | cons head tail => exact ⟨⟨_, head⟩, _, tail⟩
  · rintro ⟨⟨first, head⟩, others, tail⟩
    exact ⟨.cons first others, .cons head tail⟩

theorem readable_field {shape : Shape} {shapes : List Shape} {value : Json} {values : List Json} :
    Readable (.tuple (shape :: shapes)) (.array (value :: values)) ↔
      Readable shape value ∧ Readable (.tuple shapes) (.array values) := by
  constructor
  · rintro ⟨tree, reads⟩
    cases reads with
    | field head tail => exact ⟨⟨_, head⟩, _, tail⟩
  · rintro ⟨⟨first, head⟩, others, tail⟩
    exact ⟨.field first others, .field head tail⟩

theorem readable_present {content : Shape} {value : Json} (notNull : value ≠ .null) :
    Readable (.optional content) value ↔ Readable content value := by
  constructor
  · rintro ⟨tree, reads⟩
    cases reads with
    | absent => exact absurd rfl notNull
    | present _ inner => exact ⟨_, inner⟩
  · rintro ⟨tree, reads⟩
    exact ⟨.present tree, .present notNull reads⟩

theorem readable_blocks_iff {values : List Json} :
    (∃ blocks, ReadsBlocks values blocks) ↔ ∀ value ∈ values, Readable (.node .block) value := by
  induction values with
  | nil => exact iff_of_true ⟨[], .nil⟩ (by simp)
  | cons value values ih =>
      rw [List.forall_mem_cons, ← ih]
      constructor
      · rintro ⟨blocks, reads⟩
        cases reads with
        | cons head tail => exact ⟨⟨_, head⟩, _, tail⟩
      · rintro ⟨⟨block, head⟩, blocks, tail⟩
        exact ⟨block :: blocks, .cons head tail⟩

theorem readable_document_iff {version : List Int} {metadata : List (String × Json)}
    {values : List Json} :
    (∃ document, ReadsDocument (.object [("pandoc-api-version", .array (version.map .integer)),
        ("meta", .object metadata), ("blocks", .array values)]) document) ↔
      ∀ value ∈ values, Readable (.node .block) value := by
  rw [← readable_blocks_iff]
  constructor
  · rintro ⟨document, reads⟩
    rcases reads with @⟨naming, members, others, _, names, perm, blocks⟩
    have same := (@eq_of_record_perm _ _ documentLabels_apart _
      [Json.array (version.map .integer), .object metadata, .array values] _ names (by rfl) (by rfl)
      perm).2
    simp only [List.cons.injEq, Json.array.injEq, and_true] at same
    rw [same.2.2]
    exact ⟨_, blocks⟩
  · rintro ⟨blocks, reads⟩
    exact ⟨⟨version, metadata, blocks⟩, .mk (fun _ _ => .inl rfl) (.refl _) reads⟩

section Written

variable {number : Binary64 → Json} (written : ∀ x, Json.IsWrittenFloat (number x))
  (nullIff : ∀ x, number x = .null ↔ x.isFinite = false)

include written

include nullIff in
/-- A column width is read again unless it is spelled `null`. -/
theorem readable_width_iff (width : ColumnWidth) :
    Readable .width (width.toJson.withFloats number) ↔ width.isFinite = true := by
  cases width with
  | standard => exact iff_of_true ⟨_, @Reads.width _ .standard (.refl _)⟩ rfl
  | integer value => exact iff_of_true ⟨_, @Reads.width _ (.integer value) (.refl _)⟩ rfl
  | float x =>
      have spelled : (ColumnWidth.float x).toJson.withFloats number =
          .object [("t", .string "ColWidth"), ("c", number x)] := by
        rw [ColumnWidth.toJson, Json.withFloats_object]
        rfl
      rw [spelled, ColumnWidth.isFinite]
      rcases written x with null | ⟨y, float⟩
      · rw [null, (nullIff x).mp null]
        refine iff_of_false ?_ Bool.noConfusion
        rintro ⟨tree, reads⟩
        cases reads with
        | @width _ width perm =>
            have mem := perm.mem_iff.mp (List.mem_cons_of_mem _ (List.mem_cons_self ..))
            cases width <;> simp [ColumnWidth.members] at mem
      · have finite : x.isFinite = true := by
          rw [← Bool.not_eq_false, ← nullIff x, float]
          exact Json.noConfusion
        rw [float]
        exact iff_of_true ⟨_, @Reads.width _ (.float y) (.refl _)⟩ finite

omit written in
theorem isFloat_toJson {shape : Shape} (tree : Tree shape) : tree.toJson.isFloat = false := by
  induction tree with
  | width width => cases width <;> rfl
  | node kind payload =>
      rw [toJson_node]
      rfl
  | present value ih => rwa [Tree.toJson]
  | _ =>
      simp only [Tree.toJson, Attributes.toJson, Tag.toJson]
      rfl

omit written in
/-- Only a number can be spelled `null` when it is something else. -/
theorem withFloats_ne_null {value : Json} (notNull : value ≠ .null)
    (notFloat : value.isFloat = false) : value.withFloats number ≠ .null := by
  cases value with
  | null => exact absurd rfl notNull
  | float x => cases notFloat
  | array elements =>
      rw [Json.withFloats_array]
      exact Json.noConfusion
  | object members =>
      rw [Json.withFloats_object]
      exact Json.noConfusion
  | _ => exact Json.noConfusion

include nullIff in
/-- A written tree is read again exactly if its column widths are finite. -/
theorem readable_toJson_iff {shape : Shape} (unambiguous : shape.unambiguous = true)
    (tree : Tree shape) (placed : tree.wellPlaced = true) :
    Readable shape (tree.toJson.withFloats number) ↔
      ∀ width ∈ tree.widths, width.isFinite = true := by
  induction tree with
  | text text => exact iff_of_true ⟨_, .text text⟩ (by simp [Tree.widths])
  | integer value => exact iff_of_true ⟨_, .integer value⟩ (by simp [Tree.widths])
  | attributes attributes =>
      have kept := @Json.withFloats_eq_self number _
        (forall_parts_attributes (fun _ => rfl) (fun _ => rfl) attributes)
      rw [Tree.toJson, kept]
      exact iff_of_true ⟨_, .attributes (.array attributes)⟩ (by simp [Tree.widths])
  | width width =>
      rw [Tree.toJson, readable_width_iff written nullIff, Tree.widths]
      exact (@List.forall_mem_singleton _ (fun width => width.isFinite = true) width).symm
  | tag tag => exact iff_of_true ⟨_, .tag tag⟩ (by simp [Tree.widths])
  | nothing => cases unambiguous
  | node kind payload ih =>
      rw [Tree.wellPlaced, Bool.and_eq_true] at placed
      rw [toJson_node, Json.withFloats_object, map_members fun _ => rfl, readable_node placed.1,
        Tree.widths]
      rcases unambiguous_payload kind with bare | unambiguous
      · rw [widths_of_nothing bare]
        exact iff_of_true ⟨payload, reads_of_nothing bare _ payload⟩ (by simp)
      · exact ih unambiguous placed.2
  | citation fields ih =>
      rw [Tree.wellPlaced] at placed
      have inner := ih rfl placed
      rw [toJson_tuple, Json.withFloats_array] at inner
      rw [Tree.toJson, Json.withFloats_object, Keyed.map_zip (Json.withFloats number),
        readable_citation (by rw [List.length_map, length_items]; rfl), inner, Tree.widths]
  | nil => exact iff_of_true ⟨_, .nil⟩ (by simp [Tree.widths])
  | cons first others ihFirst ihOthers =>
      rw [Tree.wellPlaced, Bool.and_eq_true] at placed
      have tail := ihOthers unambiguous placed.2
      rw [toJson_list, Json.withFloats_array] at tail
      rw [Tree.toJson, Json.withFloats_array, List.map_cons, readable_cons,
        ihFirst unambiguous placed.1, tail, Tree.widths, List.forall_mem_append]
  | absent => exact iff_of_true ⟨_, .absent⟩ (by simp [Tree.widths])
  | present value ih =>
      rw [Shape.unambiguous, Bool.and_eq_true, Bool.not_eq_true'] at unambiguous
      have notNull := toJson_ne_null unambiguous.1 unambiguous.2 value
      rw [Tree.toJson, readable_present (withFloats_ne_null notNull (isFloat_toJson value)),
        ih unambiguous.1 placed, Tree.widths]
  | done => exact iff_of_true ⟨_, .done⟩ (by simp [Tree.widths])
  | field first others ihFirst ihOthers =>
      rw [Shape.unambiguous, Shape.unambiguousMembers, Bool.and_eq_true] at unambiguous
      rw [Tree.wellPlaced, Bool.and_eq_true] at placed
      have tail := ihOthers unambiguous.2 placed.2
      rw [toJson_tuple, Json.withFloats_array] at tail
      rw [Tree.toJson, Json.withFloats_array, List.map_cons, readable_field,
        ihFirst unambiguous.1 placed.1, tail, Tree.widths, List.forall_mem_append]

include nullIff in
/-- A written document is read again exactly if all column widths in it are finite. -/
theorem readable_document_toJson_iff {document : Document}
    (placed : ∀ block ∈ document.blocks, block.wellPlaced = true) :
    (∃ again, ReadsDocument (document.toJson.withFloats number) again) ↔
      ∀ block ∈ document.blocks, ∀ width ∈ block.widths, width.isFinite = true := by
  have version : (document.version.map Json.integer).map (Json.withFloats number) =
      document.version.map Json.integer := by
    rw [List.map_map]
    rfl
  rw [Document.toJson, Json.withFloats_object]
  simp only [List.map_cons, List.map_nil, Json.withFloats_array, Json.withFloats_object, version]
  rw [readable_document_iff, List.forall_mem_map, List.forall_mem_map]
  exact forall₂_congr fun block mem =>
    readable_toJson_iff written nullIff rfl block (placed block mem)

end Written

/-- A document without overlong integers is decoded from its own text exactly if all column widths
in it are finite and it is not too deep. -/
theorem decode_encode_iff {document : Document}
    (placed : ∀ block ∈ document.blocks, block.wellPlaced = true)
    (distinct : (Json.object document.metadata).DistinctKeys)
    (digits : ∀ part ∈ document.toJson.parts, part.digitCount ≤ Json.Limits.standard.digits) :
    (∃ again, decode (.bytes document.encode) = .ok again) ↔
      (∀ block ∈ document.blocks, ∀ width ∈ block.widths, width.isFinite = true) ∧
        document.toJson.height ≤ 201 := by
  rcases Json.exists_parse_write_iff with ⟨number, written, nullIff, parseIff⟩
  have parsesIff : ∀ value, (Input.bytes document.encode).Parses value ↔
      document.toJson.height ≤ 201 ∧ value = document.toJson.withFloats number := by
    intro value
    rw [← parseIff document.toJson (document_toJson_distinct distinct) digits value]
    constructor
    · rintro ⟨text, decoded, parsed⟩
      rw [encode, Text.Utf8.decode_encode] at decoded
      cases decoded
      exact parsed
    · intro parsed
      exact ⟨_, Text.Utf8.decode_encode _, parsed⟩
  rw [← readable_document_toJson_iff written nullIff placed]
  simp only [decode_eq_ok_iff, parsesIff]
  constructor
  · rintro ⟨again, _, ⟨shallow, rfl⟩, reads⟩
    exact ⟨⟨again, reads⟩, shallow⟩
  · rintro ⟨⟨again, reads⟩, shallow⟩
    exact ⟨again, _, ⟨shallow, rfl⟩, reads⟩

end DocHighlight.Document
