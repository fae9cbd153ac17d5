import DocHighlight.Proofs.Document.Highlighting
import DocHighlight.Proofs.Document.RoundTrip

/-!
# What the filter writes

The filter knows documents by their nodes; what it does to their texts can be said without them. The
value of the text that comes out is the value of the document with all code blocks in its blocks
replaced, wherever they stand. Version and metadata stay as they are, also where the metadata holds
something that looks like a code block.
-/

namespace DocHighlight

open Document

/-- The filter does to the JSON value of a document what highlighting its blocks as JSON does, and
leaves nothing to be highlighted. The highlighter may be that of any registry. -/
theorem filter_highlights (highlighter : Highlighter) (format : String) {input : Input}
    {document : Document} (decoded : decode input = .ok document) :
    ∃ result, (filter highlighter format input).run.value = .ok result ∧
      document.encodeText? = .ok document.encodeText ∧
      result.encodeText? = .ok result.encodeText ∧
      ∃ value blocks, Json.Means document.encode value ∧
        Json.Means result.encode (value.mapMember "blocks" (Json.highlight highlighter)) ∧
        value.member? "blocks" = some blocks ∧
        ∀ part ∈ (blocks.highlight highlighter).parts,
          Json.highlighted? highlighter part = none := by
  rcases decode_eq_ok_iff.mp decoded with ⟨given, parses, reads⟩
  have distinct := reads.distinct_metadata parses.distinct
  -- One reading of floating-point numbers serves both texts, so it cancels out.
  rcases Json.exists_means_write with ⟨number, written, means⟩
  have before := means document.toJson (document_toJson_distinct distinct)
  have after := means (document.highlighted highlighter).toJson (document_toJson_distinct distinct)
  have commutes := @Json.withFloats_mapMember highlighter number written "blocks" document.toJson
  rw [← document_toJson_highlighted] at commutes
  rw [commutes] at after
  have blocks : (document.toJson.withFloats number).member? "blocks" =
      some ((Json.array (document.blocks.map Tree.toJson)).withFloats number) := by
    rw [Document.toJson, Json.withFloats_object]
    rfl
  exact ⟨_, filter_of_decode format decoded, encodeText?_of_decode decoded,
    encodeText?_highlighted decoded, _, _, before, after, blocks,
    Json.highlighted?_of_mem_highlight _⟩

/-- Shell code in a footnote that stands in the suffix of a citation. -/
def annotatedBlock : Block :=
  .node .para (.cons
    (.node .cite (.field
      (.cons (.citation
        (.field (.text "source") (.field .nil (.field
          (.cons (.node .note (.cons (Node.put (.code ⟨"", ["sh"], []⟩ "ls") .block) .nil)) .nil)
          (.field (.tag ⟨"AuthorInText", by decide⟩) (.field (.integer 1) (.field (.integer 0)
            .done)))))))
        .nil)
      (.field .nil .done)))
    .nil)

/-- A document with this block, and with metadata that looks like a code block. -/
def annotatedDocument : Document :=
  ⟨[1, 23], [("t", .string "CodeBlock"), ("c", (Node.code ⟨"", ["sh"], []⟩ "ls").toJson)],
    [annotatedBlock]⟩

/-- A highlighter of shell code. -/
def shellHighlighter : Highlighter :=
  fun language text => if language = "sh" then some ("<b>" ++ text ++ "</b>") else none

theorem filter_highlights_annotated :
    decode (.bytes annotatedDocument.encode) = .ok annotatedDocument ∧
      ∃ result, (filter shellHighlighter "html" (.bytes annotatedDocument.encode)).run.value =
          .ok result ∧
        annotatedDocument.encodeText? = .ok annotatedDocument.encodeText ∧
        result.encodeText? = .ok result.encodeText ∧
        ∃ value blocks, Json.Means annotatedDocument.encode value ∧
          Json.Means result.encode (value.mapMember "blocks" (Json.highlight shellHighlighter)) ∧
          value.member? "blocks" = some blocks ∧
          ∀ part ∈ (blocks.highlight shellHighlighter).parts,
            Json.highlighted? shellHighlighter part = none := by
  have decoded : decode (.bytes annotatedDocument.encode) = .ok annotatedDocument :=
    (decode_of_fits (by decide) (by decide) (by decide) (by decide)).2
  exact ⟨decoded, filter_highlights shellHighlighter "html" decoded⟩

end DocHighlight
