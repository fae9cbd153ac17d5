import DocHighlight.Proofs.Document.Highlighting
import DocHighlight.Proofs.Document.Rereading
import DocHighlight.Proofs.Filter

/-!
# Filters in a row

What the filter writes can be handed to the filter again, with two exceptions. A column width that
is too large for a floating-point number is read as infinite and written as `null`, which is no
width. And attributes that are given as an object are written as an array, which may be deeper, so
that the text comes to exceed the nesting that the reader allows. Documents of the documented form
have no such attributes, so for them only the column widths matter.
-/

namespace DocHighlight

open Document

section Highlighted

variable {highlighter : Highlighter}

/-- There are no column widths in a code block, and none in what replaces it. -/
theorem Document.Tree.widths_highlighted {shape : Shape} (tree : Tree shape) :
    (tree.highlighted highlighter).widths = tree.widths := by
  induction tree with
  | text | integer | attributes | width | tag | nothing | nil | absent | done =>
      rw [highlighted_eq_self rfl]
  | @node place kind payload ih =>
      rcases @answer_cases highlighter kind payload with
        ⟨declined, -⟩ | ⟨markup, code, replaced, -⟩
      · rw [highlighted_of_decline declined, widths, widths, ih]
      · rw [highlighted_of_replace replaced]
        subst code
        rcases exists_code payload with ⟨attributes, text, rfl⟩
        rfl
  | citation fields ih => rw [highlighted_citation, widths, widths, ih]
  | present value ih => rw [highlighted_present, widths, widths, ih]
  | cons first others ihFirst ihOthers =>
      rw [highlighted_cons, widths, widths, ihFirst, ihOthers]
  | field first others ihFirst ihOthers =>
      rw [highlighted_field, widths, widths, ihFirst, ihOthers]

/-- A highlighted document is decoded from its text exactly if the column widths of the document are
finite and the highlighted document is not too deep. -/
theorem Document.decode_encode_highlighted_iff {input : Input} {document : Document}
    (decoded : decode input = .ok document) :
    (∃ again, decode (.bytes (document.highlighted highlighter).encode) = .ok again) ↔
      (∀ block ∈ document.blocks, ∀ width ∈ block.widths, width.isFinite = true) ∧
        (document.highlighted highlighter).toJson.height ≤ 201 := by
  rcases decode_eq_ok_iff.mp decoded with ⟨value, parses, reads⟩
  have numbers : Json.OfNumbers fun part => part.digitCount ≤ Json.Limits.standard.digits :=
    { null := Nat.zero_le _, string := fun _ => Nat.zero_le _, array := fun _ => Nat.zero_le _,
      object := fun _ => Nat.zero_le _ }
  have digits := reads.forall_parts numbers parses.digits
  have widths : (∀ block ∈ (document.highlighted highlighter).blocks,
        ∀ width ∈ block.widths, width.isFinite = true) ↔
      ∀ block ∈ document.blocks, ∀ width ∈ block.widths, width.isFinite = true := by
    simp only [highlighted, List.forall_mem_map, Tree.widths_highlighted]
  rw [← widths]
  apply decode_encode_iff
  · simp only [highlighted, List.forall_mem_map]
    exact fun block mem => Tree.wellPlaced_highlighted (reads.wellPlaced block mem)
  · exact reads.distinct_metadata parses.distinct
  · rw [document_toJson_highlighted]
    exact Json.forall_parts_mapMember numbers "blocks" digits

/-- A document of the documented form does not become deeper. -/
theorem Document.height_highlighted_le_of_documented {input : Input} {document : Document}
    {value : Json} (decoded : decode input = .ok document) (parses : input.Parses value)
    (conforms : ConformsDocument .documented value) :
    (document.highlighted highlighter).toJson.height ≤ 201 := by
  rcases decode_eq_ok_iff.mp decoded with ⟨same, parsesSame, reads⟩
  cases parses.unique parsesSame
  have sameHeight := congrArg Json.height (reads.sorted_eq_of_documented parses.distinct conforms)
  rw [Json.height_sorted, Json.height_sorted] at sameHeight
  have shallow := parses.height_le
  have noDeeper := @Json.height_mapMember_le highlighter "blocks" document.toJson
  rw [← document_toJson_highlighted] at noDeeper
  omega

end Highlighted

/-- The filter gives a result for any input that is decoded, and the text of the result is decoded
again exactly if the column widths of the document are finite and the result is not too deep. It is
never too deep if the input has the documented form. -/
theorem refilter_iff (highlighter : Highlighter) (format : String) {input : Input}
    {document : Document} (decoded : decode input = .ok document) :
    ∃ result, (filter highlighter format input).run.value = .ok result ∧
      result.encodeText? = .ok result.encodeText ∧
      ((∃ again, decode (.bytes result.encode) = .ok again) ↔
        (∀ block ∈ document.blocks, ∀ width ∈ block.widths, width.isFinite = true) ∧
          result.toJson.height ≤ 201) ∧
      ∀ value, input.Parses value → ConformsDocument .documented value →
        result.toJson.height ≤ 201 :=
  ⟨_, filter_of_decode format decoded, encodeText?_highlighted decoded,
    decode_encode_highlighted_iff decoded,
    fun _ parses conforms => height_highlighted_le_of_documented decoded parses conforms⟩

/-- A table with one column of a given width and no rows. -/
def tableBlock (width : ColumnWidth) : Block :=
  let attributes : Tree .attributes := .attributes ⟨"", [], []⟩
  let noRows : Tree Shape.tableHead := .field attributes (.field .nil .done)
  .node .table (.field attributes (.field (.field .absent (.field .nil .done)) (.field
    (.cons (.field (.tag ⟨"AlignLeft", by decide⟩) (.field (.width width) .done)) .nil)
    (.field noRows (.field .nil (.field noRows .done))))))

/-- The text of a document with one table, whose column width is spelled `1e999`. -/
def overflowingText : List Char :=
  (Document.encodeText ⟨[23], [], [tableBlock (.integer 1)]⟩).flatMap fun c =>
    if c = '1' then ['1', 'e', '9', '9', '9'] else [c]

theorem exists_overflowing : ∃ document, decode (.characters overflowingText) = .ok document ∧
    document.blocks.flatMap Tree.widths = [.float (.infinite false)] := by
  apply exists_of_toOption_decode
  decide +kernel

theorem refilter_iff_overflowing :
    ∃ document, decode (.characters overflowingText) = .ok document ∧
      ∃ result, (filter shellHighlighter "html" (.characters overflowingText)).run.value =
          .ok result ∧
        result.encodeText? = .ok result.encodeText ∧
        ((∃ again, decode (.bytes result.encode) = .ok again) ↔
          (∀ block ∈ document.blocks, ∀ width ∈ block.widths, width.isFinite = true) ∧
            result.toJson.height ≤ 201) ∧
        ∀ value, (Input.characters overflowingText).Parses value →
          ConformsDocument .documented value → result.toJson.height ≤ 201 := by
  rcases exists_overflowing with ⟨document, decoded, -⟩
  exact ⟨document, decoded, refilter_iff shellHighlighter "html" decoded⟩

/-- The filter gives a result for this text, and the text of the result is not decoded. -/
theorem overflowing_not_decoded_again :
    ∃ result, (filter shellHighlighter "html" (.characters overflowingText)).run.value =
        .ok result ∧
      result.encodeText? = .ok result.encodeText ∧
      ¬∃ again, decode (.bytes result.encode) = .ok again := by
  rcases exists_overflowing with ⟨document, decoded, widths⟩
  refine ⟨_, filter_of_decode "html" decoded, encodeText?_highlighted decoded, ?_⟩
  rw [decode_encode_highlighted_iff decoded]
  rintro ⟨finite, -⟩
  have infinite : ColumnWidth.float (.infinite false) ∈ document.blocks.flatMap Tree.widths := by
    rw [widths]
    exact List.mem_singleton_self _
  rcases List.mem_flatMap.mp infinite with ⟨block, mem, there⟩
  cases finite block mem _ there

end DocHighlight
