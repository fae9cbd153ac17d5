import DocHighlight.Proofs.Document.Conformance

/-!
# Decoding and encoding a document

A document of the documented form is decoded and encoded without a change but for white space and
the order of members, and the new order is known. A document of the accepted form is decoded too;
but what is encoded again is the same up to the order of members only if the document has the
documented form. So the freedoms of the accepted form are all that decoding and encoding changes.
-/

namespace DocHighlight.Document

/-- A document is decoded exactly if it conforms to the accepted form, and what is encoded again
means the same up to the order of members exactly if it conforms to the documented form. -/
theorem decode_faithful_iff {input : Input} {value : Json} (parses : input.Parses value)
    (integral : value.Integral) :
    ((∃ document, decode input = .ok document) ↔ ConformsDocument .accepted value) ∧
      ∀ document, decode input = .ok document →
        ∃ written, Json.Means document.encode written ∧
          (written.sorted = value.sorted ↔ ConformsDocument .documented value) := by
  have distinct := parses.distinct
  have readsOfDecode : ∀ {document : Document}, decode input = .ok document →
      ReadsDocument value document := by
    intro document decoded
    rcases decode_eq_ok_iff.mp decoded with ⟨same, parsesSame, reads⟩
    rwa [parses.unique parsesSame]
  constructor
  · constructor
    · rintro ⟨document, decoded⟩
      exact ((readsOfDecode decoded).conforms distinct).1
    · intro conforms
      rcases conforms.exists_reads distinct with ⟨document, reads, -⟩
      exact ⟨document, decode_eq_ok_iff.mpr ⟨value, parses, reads⟩⟩
  · intro document decoded
    have reads := readsOfDecode decoded
    have writtenDistinct := document_toJson_distinct (reads.distinct_metadata distinct)
    refine ⟨document.toJson, Json.means_write writtenDistinct (reads.integral integral), ?_⟩
    constructor
    · exact (reads.conforms distinct).2
    · intro conforms
      rcases conforms.exists_reads distinct with ⟨same, readsSame, restored⟩
      have read := (document_ofJson_eq_valid_iff distinct).mpr reads
      have readSame := (document_ofJson_eq_valid_iff distinct).mpr readsSame
      rw [read] at readSame
      cases readSame
      exact (restored rfl).2

/-- An empty document whose version goes by its other name. -/
def renamedValue : Json :=
  .object [("api_version", .array [.integer 1]), ("meta", .object []), ("blocks", .array [])]

theorem renamedValue_parses : (Input.characters renamedValue.write).Parses renamedValue := by
  have spelled : (Input.characters renamedValue.write).Spells renamedValue :=
    Json.spells_write (by decide) (by decide) (by decide)
  exact spelled.parses

theorem renamedValue_decoded : decode (.characters renamedValue.write) = .ok ⟨[1], [], []⟩ := by
  have names : Naming documentLabels FieldName.otherName := fun _ _ => .inr rfl
  have reads : ReadsDocument renamedValue ⟨[1], [], []⟩ := .mk names (.refl _) .nil
  exact decode_eq_ok_iff.mpr ⟨_, renamedValue_parses, reads⟩

/-- This document is decoded, and its version is encoded under the preferred name. -/
theorem decode_renames :
    (Input.characters renamedValue.write).Parses renamedValue ∧ renamedValue.DistinctKeys ∧
      renamedValue.Integral ∧ decode (.characters renamedValue.write) = .ok ⟨[1], [], []⟩ ∧
      ∀ written, Json.Means (Document.encode ⟨[1], [], []⟩) written →
        written.sorted ≠ renamedValue.sorted := by
  refine ⟨renamedValue_parses, by decide, by decide, renamedValue_decoded, ?_⟩
  intro written means same
  have encoded : Json.Means (Document.encode ⟨[1], [], []⟩) (Document.toJson ⟨[1], [], []⟩) :=
    Json.means_write (by decide) (by decide)
  rw [means.unique encoded, Document.toJson, renamedValue,
    Json.sorted_object_eq_iff (by decide) (by decide)] at same
  cases same "api_version"

theorem decode_faithful_iff_renamed :
    ((Input.characters renamedValue.write).Parses renamedValue ∧ renamedValue.Integral) ∧
      ConformsDocument .accepted renamedValue ∧
      ∃ written, Json.Means (Document.encode ⟨[1], [], []⟩) written ∧
        (written.sorted = renamedValue.sorted ↔ ConformsDocument .documented renamedValue) := by
  have integral : renamedValue.Integral := by
    decide
  have both := decode_faithful_iff renamedValue_parses integral
  exact ⟨⟨renamedValue_parses, integral⟩, both.1.mp ⟨_, renamedValue_decoded⟩,
    both.2 _ renamedValue_decoded⟩

end DocHighlight.Document
