import DocHighlight.Proofs.Document.Codec

/-!
# Decoding undoes encoding

A tree in which every node belongs to its place is read again from its JSON form. For this its shape
must be unambiguous: a value that may be absent must not be written as `null` when it is present.
All payloads of nodes are of such shapes, and so are the shapes that go by a name of their own.

Together with the writer, whose text spells the value that it was written from, this takes every
document without floating-point numbers through its text and back, as long as the text keeps to the
limits of the reader.
-/

namespace DocHighlight.Document

/-- Whether a shape is that of a value that may be absent. -/
def Shape.isOptional : Shape → Bool
  | .optional _ => true
  | _ => false

mutual

/-- Whether every tree of a shape can be told from its JSON form. -/
def Shape.unambiguous : Shape → Bool
  | .nothing => false
  | .optional content => content.unambiguous && !content.isOptional
  | .list element => element.unambiguous
  | .tuple members => unambiguousMembers members
  | .text | .integer | .attributes | .width | .tag _ | .node _ | .citation => true

def Shape.unambiguousMembers : List Shape → Bool
  | [] => true
  | member :: others => member.unambiguous && unambiguousMembers others

end

/-- The shapes that go by a name of their own. -/
def namedShapes : List Shape :=
  [.node .block, .node .inline, .attributes, .citation, .width, .tag .alignment, .tag .quoteType,
   .tag .mathType, .tag .numberStyle, .tag .numberDelimiter, .tag .citationMode, .caption, .column,
   .cell, .row, .tableHead, .tableBody, .tableFoot, .numbering]

theorem unambiguous_of_mem_namedShapes :
    ∀ shape ∈ namedShapes, shape.unambiguous = true := by
  decide

theorem unambiguous_payload (kind : NodeKind) :
    kind.payload = .nothing ∨ kind.payload.unambiguous = true := by
  cases kind <;> first | exact .inl rfl | exact .inr rfl

/-- What is present is not written as `null`. -/
theorem toJson_ne_null {shape : Shape} (unambiguous : shape.unambiguous = true)
    (notOptional : shape.isOptional = false) (tree : Tree shape) : tree.toJson ≠ .null := by
  cases tree with
  | nothing => cases unambiguous
  | absent | present => cases notOptional
  | width width => cases width <;> exact Json.noConfusion
  | node kind payload =>
      rw [toJson_node]
      exact Json.noConfusion
  | _ =>
      simp only [Tree.toJson, Attributes.toJson, Tag.toJson]
      exact Json.noConfusion

/-- A tree is read again from its JSON form. -/
theorem reads_toJson {shape : Shape} (unambiguous : shape.unambiguous = true) (tree : Tree shape)
    (placed : tree.wellPlaced = true) : Reads tree.toJson tree := by
  induction tree with
  | text text => exact .text text
  | integer number => exact .integer number
  | attributes attributes => exact .attributes (.array attributes)
  | width width =>
      rw [Tree.toJson, toJson_width]
      exact .width (.refl _)
  | tag tag => exact .tag tag
  | nothing => exact .nothing _
  | node kind payload ih =>
      rw [Tree.wellPlaced, Bool.and_eq_true] at placed
      rw [toJson_node]
      apply Reads.node placed.1 (.refl _)
      rcases unambiguous_payload kind with bare | unambiguous
      · exact reads_of_nothing bare _ payload
      · exact ih unambiguous placed.2
  | citation fields ih =>
      have inner := ih rfl placed
      rw [toJson_tuple] at inner
      have names : Naming citationLabels FieldName.name := fun _ _ => .inl rfl
      exact .citation names (.refl _) inner
  | nil => exact .nil
  | cons first others ihFirst ihOthers =>
      rw [Tree.wellPlaced, Bool.and_eq_true] at placed
      have tail := ihOthers unambiguous placed.2
      rw [toJson_list] at tail
      exact .cons (ihFirst unambiguous placed.1) tail
  | absent => exact .absent
  | present value ih =>
      rw [Shape.unambiguous, Bool.and_eq_true, Bool.not_eq_true'] at unambiguous
      exact .present (toJson_ne_null unambiguous.1 unambiguous.2 value) (ih unambiguous.1 placed)
  | done => exact .done
  | field first others ihFirst ihOthers =>
      rw [Shape.unambiguous, Shape.unambiguousMembers, Bool.and_eq_true] at unambiguous
      rw [Tree.wellPlaced, Bool.and_eq_true] at placed
      have tail := ihOthers unambiguous.2 placed.2
      rw [toJson_tuple] at tail
      exact .field (ihFirst unambiguous.1 placed.1) tail

theorem readsBlocks_toJson {blocks : List Block}
    (placed : ∀ block ∈ blocks, block.wellPlaced = true) :
    ReadsBlocks (blocks.map Tree.toJson) blocks := by
  induction blocks with
  | nil => exact .nil
  | cons block blocks ih =>
      rcases List.forall_mem_cons.mp placed with ⟨here, there⟩
      exact .cons (reads_toJson rfl block here) (ih there)

theorem readsDocument_toJson {document : Document}
    (placed : ∀ block ∈ document.blocks, block.wellPlaced = true) :
    ReadsDocument document.toJson document := by
  have names : Naming documentLabels FieldName.name := fun _ _ => .inl rfl
  exact .mk names (.refl _) (readsBlocks_toJson placed)

/-- The text of a tree of an unambiguous shape means the tree. -/
theorem ofJson_parse_write {shape : Shape} (unambiguous : shape.unambiguous = true)
    {tree : Tree shape} (placed : tree.wellPlaced = true) (integral : tree.toJson.Integral)
    (fits : tree.toJson.FitsIn .standard) :
    ∃ value, Json.parse tree.toJson.write = .ok value ∧ Tree.ofJson shape value = .valid tree := by
  have distinct := toJson_distinct tree
  refine ⟨tree.toJson, Json.parse_of_spells (Json.spells_write distinct integral fits), ?_⟩
  exact ofJson_of_reads distinct (reads_toJson unambiguous tree placed)

/-- A document is decoded from its text. -/
theorem decode_of_fits {document : Document}
    (placed : ∀ block ∈ document.blocks, block.wellPlaced = true)
    (distinct : (Json.object document.metadata).DistinctKeys)
    (integral : document.toJson.Integral) (fits : document.toJson.FitsIn .standard) :
    decode (.characters document.encodeText) = .ok document ∧
      decode (.bytes document.encode) = .ok document := by
  have spelled : Json.Spells .standard document.encodeText document.toJson :=
    Json.spells_write (document_toJson_distinct distinct) integral fits
  have reads := readsDocument_toJson placed
  constructor
  · have characters : (Input.characters document.encodeText).Spells document.toJson := spelled
    exact decode_eq_ok_iff.mpr ⟨_, characters.parses, reads⟩
  · exact decode_eq_ok_iff.mpr ⟨_, (Input.spells_encode spelled).parses, reads⟩

/-- A document whose text keeps to the limits of the reader can be written. -/
theorem encodeText?_of_fits {document : Document}
    (placed : ∀ block ∈ document.blocks, block.wellPlaced = true)
    (fits : document.toJson.FitsIn .standard) :
    document.encodeText? = .ok document.encodeText := by
  have shallow : document.toJson.height ≤ 201 := fits.nesting
  rw [Document.toJson] at shallow
  have each := fun member mem => Nat.le_trans (@Json.height_le_of_mem_members _ member mem) shallow
  simp only [List.forall_mem_cons, List.not_mem_nil, false_imp_iff, implies_true, and_true] at each
  rcases each with ⟨-, metadata, blocks⟩
  apply encodeText?_eq_ok placed
  · intro block mem
    have inside := Json.height_le_of_mem_elements (List.mem_map_of_mem (f := Tree.toJson) mem)
    rw [levelLimit]
    omega
  · intro member mem
    have inside := Json.height_le_of_mem_members mem
    rw [levelLimit]
    omega

/-- A column width that is a number is read on its own from what it is written as. -/
theorem ofNumberJson_toJson {width : ColumnWidth} (number : width ≠ .standard) :
    ColumnWidth.ofNumberJson width.toJson = .valid width := by
  cases width with
  | standard => exact absurd rfl number
  | integer value => rfl
  | float value => rfl

theorem toJson_width_distinct (width : ColumnWidth) : width.toJson.DistinctKeys :=
  toJson_distinct (.width width)

/-- Decoding undoes encoding, for whole documents and for values of all named shapes. A document is
any in which every node belongs to its place and the metadata has distinct keys; it is written
without floating-point numbers and within the limits of the reader. -/
theorem document_roundTrip :
    (∀ document : Document, (∀ block ∈ document.blocks, block.wellPlaced = true) →
      (Json.object document.metadata).DistinctKeys → document.toJson.Integral →
      document.toJson.FitsIn .standard →
        document.encodeText? = .ok document.encodeText ∧
          decode (.characters document.encodeText) = .ok document ∧
          decode (.bytes document.encode) = .ok document) ∧
    (∀ shape ∈ namedShapes, ∀ tree : Tree shape, tree.wellPlaced = true → tree.toJson.Integral →
      tree.toJson.FitsIn .standard →
        ∃ value, Json.parse tree.toJson.write = .ok value ∧
          Tree.ofJson shape value = .valid tree) ∧
    (∀ width : ColumnWidth, width ≠ .standard → width.toJson.Integral →
      width.toJson.FitsIn .standard →
        ∃ value, Json.parse width.toJson.write = .ok value ∧
          ColumnWidth.ofNumberJson value = .valid width) ∧
    ∃ value, Json.parse ColumnWidth.standard.toJson.write = .ok value ∧
      ColumnWidth.ofDefaultJson value = .valid .standard := by
  refine ⟨?_, ?_, ?_, ?_⟩
  · intro document placed distinct integral fits
    exact ⟨encodeText?_of_fits placed fits, decode_of_fits placed distinct integral fits⟩
  · intro shape named tree placed integral fits
    exact ofJson_parse_write (unambiguous_of_mem_namedShapes shape named) placed integral fits
  · intro width number integral fits
    have spelled := Json.spells_write (toJson_width_distinct width) integral fits
    exact ⟨width.toJson, Json.parse_of_spells spelled, ofNumberJson_toJson number⟩
  · have spelled := Json.spells_write (toJson_width_distinct .standard) (by decide)
      (by decide : ColumnWidth.standard.toJson.FitsIn .standard)
    exact ⟨_, Json.parse_of_spells spelled, rfl⟩

/-- A paragraph that cites with a footnote behind the citation. -/
def citingBlock : Block :=
  .node .para (.cons
    (.node .cite (.field
      (.cons (.citation
        (.field (.text "source") (.field .nil (.field
          (.cons (.node .note (.cons (.node .null .nothing) .nil)) .nil) (.field
            (.tag ⟨"NormalCitation", by decide⟩) (.field (.integer 1) (.field (.integer (-2))
              .done)))))))
        .nil)
      (.field (.cons (.node .space .nothing) .nil) .done)))
    .nil)

/-- A document with metadata and one paragraph. -/
def citingDocument : Document :=
  ⟨[1, 23], [("title", .object [("b", .null), ("a", .array [.bool true])])], [citingBlock]⟩

/-- A caption with an empty short form, which is not the same as none. -/
def emptyCaption : Tree .caption :=
  .field (.present .nil) (.field .nil .done)

theorem document_roundTrip_citing :
    ((∀ block ∈ citingDocument.blocks, block.wellPlaced = true) ∧
      (Json.object citingDocument.metadata).DistinctKeys ∧ citingDocument.toJson.Integral ∧
      citingDocument.toJson.FitsIn .standard) ∧
    (citingDocument.encodeText? = .ok citingDocument.encodeText ∧
      decode (.characters citingDocument.encodeText) = .ok citingDocument ∧
      decode (.bytes citingDocument.encode) = .ok citingDocument) ∧
    ∃ value, Json.parse emptyCaption.toJson.write = .ok value ∧
      Tree.ofJson .caption value = .valid emptyCaption := by
  have placed : ∀ block ∈ citingDocument.blocks, block.wellPlaced = true := by
    decide
  have distinct : (Json.object citingDocument.metadata).DistinctKeys := by
    decide
  have integral : citingDocument.toJson.Integral := by
    decide
  have fits : citingDocument.toJson.FitsIn .standard := by
    decide
  have named : Shape.caption ∈ namedShapes := by
    simp [namedShapes]
  exact ⟨⟨placed, distinct, integral, fits⟩,
    document_roundTrip.1 citingDocument placed distinct integral fits,
    document_roundTrip.2.1 .caption named emptyCaption (by decide) (by decide) (by decide)⟩

end DocHighlight.Document
