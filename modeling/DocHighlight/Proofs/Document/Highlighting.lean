import DocHighlight.Filter
import DocHighlight.Proofs.Document.Codec
import DocHighlight.Proofs.Json.CodeBlocks

/-!
# Highlighting a document tree

The walk over a tree does to its JSON form what highlighting does to any JSON value. The induction
is on the tree, one case for each constructor. At a node the transformer and the JSON form agree on
what is a code block in a supported language; no other part of a tree is written as anything that
looks like one, because only a node of that kind bears its name.
-/

namespace DocHighlight.Document

section Settled

variable {α β : Type}

theorem settled_pure (value : α) : settled (pure value) = pure value :=
  rfl

theorem settled_bind (first : ExceptT Empty Logged α) (next : α → ExceptT Empty Logged β) :
    settled (first >>= next) = settled first >>= fun value => settled (next value) := by
  rw [settled, settled, ExceptT.run_bind, bind_assoc, bind_assoc]
  apply bind_congr
  intro result
  cases result with
  | ok value => rw [pure_bind]; rfl
  | error impossible => cases impossible

theorem settled_lift (logged : Logged α) :
    settled (liftM logged : ExceptT Empty Logged α) = logged := by
  have lifted : (liftM logged : ExceptT Empty Logged α).run = Except.ok <$> logged := rfl
  rw [settled, lifted, bind_map_left]
  exact bind_pure logged

end Settled

section Answer

variable {highlighter : Highlighter}

theorem transformer_of_ne {kind : NodeKind} (other : kind ≠ .codeBlock)
    (payload : Tree kind.payload) :
    CodeBlocks.transformer highlighter ⟨kind, payload⟩ = pure .decline := by
  cases kind <;> first | rfl | exact absurd rfl other

/-- Only code blocks are named like one. -/
theorem name_ne_codeBlock {kind : NodeKind} (other : kind ≠ .codeBlock) :
    kind.name ≠ "CodeBlock" := by
  cases kind <;> first | decide | exact absurd rfl other

theorem declaredCode?_of_name {name : String} (other : name ≠ "CodeBlock")
    (members : List (String × Json)) :
    (Json.object (("t", .string name) :: members)).declaredCode? = none := by
  simp [Json.declaredCode?, Json.member?, Keyed.get?, Json.text?, other]

theorem declaredCode?_code (attributes : Attributes) (text : String) :
    (Node.code attributes text).toJson.declaredCode? =
      attributes.language?.map fun language => (language, text) := by
  have written : (Node.code attributes text).toJson =
      .object [("t", .string "CodeBlock"), ("c", .array [attributes.toJson, .string text])] := by
    simp only [Node.toJson, nodeToJson, NodeKind.name, NodeKind.payload, Tree.toJson, Tree.items]
  rcases attributes with ⟨identifier, classes, pairs⟩
  rw [written]
  cases classes <;> rfl

theorem exists_code (payload : Tree NodeKind.codeBlock.payload) :
    ∃ attributes text, payload = .field (.attributes attributes) (.field (.text text) .done) := by
  cases payload with
  | field first others =>
      cases first with
      | attributes attributes =>
          cases others with
          | field second rest =>
              cases second with
              | text text =>
                  cases rest
                  exact ⟨attributes, text, rfl⟩

theorem transformer_code (attributes : Attributes) (text : String) :
    CodeBlocks.transformer highlighter (.code attributes text) =
      CodeBlocks.answer highlighter attributes text :=
  rfl

theorem raw_toJson (format text : String) :
    (Node.raw format text).toJson = .object [("t", .string "RawBlock"),
      ("c", .array [.string format, .string text])] := by
  simp only [Node.toJson, nodeToJson, NodeKind.name, NodeKind.payload, Tree.toJson, Tree.items]

/-- The transformer and the JSON form agree on what is replaced, and by what. -/
theorem answer_cases (kind : NodeKind) (payload : Tree kind.payload) :
    ((CodeBlocks.transformer highlighter ⟨kind, payload⟩).value = .decline ∧
        Json.highlighted? highlighter (Node.toJson ⟨kind, payload⟩) = none) ∨
      ∃ markup, kind = .codeBlock ∧
        (CodeBlocks.transformer highlighter ⟨kind, payload⟩).value =
          .replace (.raw "html" markup) ∧
        Json.highlighted? highlighter (Node.toJson ⟨kind, payload⟩) =
          some (Node.raw "html" markup).toJson := by
  by_cases code : kind = .codeBlock
  · subst code
    rcases exists_code payload with ⟨attributes, text, rfl⟩
    rw [Json.highlighted?, declaredCode?_code, transformer_code, CodeBlocks.answer]
    cases attributes.language? with
    | none => exact .inl ⟨rfl, rfl⟩
    | some language =>
        simp only [Option.map_some, Option.bind_eq_bind, Option.bind_some]
        cases highlighter language text with
        | none => exact .inl ⟨rfl, rfl⟩
        | some markup =>
            refine .inr ⟨CodeBlocks.wrap language markup, trivial, rfl, ?_⟩
            rw [raw_toJson]
            rfl
  · left
    rw [transformer_of_ne code, Json.highlighted?, Node.toJson, nodeToJson_eq, NodeKind.members]
    refine ⟨rfl, ?_⟩
    split <;> rw [declaredCode?_of_name (name_ne_codeBlock code)] <;> rfl

end Answer

namespace Tree

/-- The outcome of a walk over a tree when code is highlighted. -/
def outcome (highlighter : Highlighter) {shape : Shape} (tree : Tree shape) :
    Rebuilt (Tree shape) :=
  (settled (tree.walk (CodeBlocks.transformer highlighter))).value

/-- What a walk makes of a tree when code is highlighted. -/
def highlighted (highlighter : Highlighter) {shape : Shape} (tree : Tree shape) : Tree shape :=
  (settled (tree.walk (CodeBlocks.transformer highlighter))).value.value tree

section Outcome

variable {highlighter : Highlighter}

theorem highlighted_eq {shape : Shape} (tree : Tree shape) :
    tree.highlighted highlighter = (tree.outcome highlighter).value tree :=
  rfl

/-- The outcome for a node that is declined is that for its payload. -/
theorem outcome_of_decline {place : Place} {kind : NodeKind} {payload : Tree kind.payload}
    (declined : (CodeBlocks.transformer highlighter ⟨kind, payload⟩).value = .decline) :
    (@node place kind payload).outcome highlighter =
      (payload.outcome highlighter).map (.node kind) := by
  simp only [outcome, walk, settled_bind, settled_lift, settled_pure, Logged.value_bind,
    Logged.value_pure, declined]

theorem outcome_of_replace {place : Place} {kind : NodeKind} {payload : Tree kind.payload}
    {chosen : Node}
    (replaced : (CodeBlocks.transformer highlighter ⟨kind, payload⟩).value = .replace chosen) :
    (@node place kind payload).outcome highlighter = .fresh (chosen.put place) := by
  simp only [outcome, walk, settled_bind, settled_lift, settled_pure, Logged.value_bind,
    Logged.value_pure, replaced]

theorem outcome_citation (fields : Tree (.tuple (citationFields.map CitationField.shape))) :
    (citation fields).outcome highlighter = (fields.outcome highlighter).map .citation := by
  simp only [outcome, walk, settled_bind, settled_pure, Logged.value_bind, Logged.value_pure]

theorem outcome_present {content : Shape} (value : Tree content) :
    (present value).outcome highlighter = (value.outcome highlighter).map .present := by
  simp only [outcome, walk, settled_bind, settled_pure, Logged.value_bind, Logged.value_pure]

theorem outcome_cons {element : Shape} (first : Tree element) (others : Tree (.list element)) :
    (cons first others).outcome highlighter =
      .both .cons first others (first.outcome highlighter) (others.outcome highlighter) := by
  simp only [outcome, walk, settled_bind, settled_pure, Logged.value_bind, Logged.value_pure]

theorem outcome_field {shape : Shape} {shapes : List Shape} (first : Tree shape)
    (others : Tree (.tuple shapes)) :
    (field first others).outcome highlighter =
      .both .field first others (first.outcome highlighter) (others.outcome highlighter) := by
  simp only [outcome, walk, settled_bind, settled_pure, Logged.value_bind, Logged.value_pure]

theorem outcome_eq_same {shape : Shape} {tree : Tree shape}
    (same : tree.walk (CodeBlocks.transformer highlighter) = pure .same) :
    tree.outcome highlighter = .same := by
  rw [outcome, same, settled_pure, Logged.value_pure]

end Outcome

section Highlighted

variable {highlighter : Highlighter}

/-- A node that is declined is kept, with its payload highlighted. -/
theorem highlighted_of_decline {place : Place} {kind : NodeKind} {payload : Tree kind.payload}
    (declined : (CodeBlocks.transformer highlighter ⟨kind, payload⟩).value = .decline) :
    (@node place kind payload).highlighted highlighter =
      .node kind (payload.highlighted highlighter) := by
  rw [highlighted_eq, outcome_of_decline declined, Rebuilt.value_map, highlighted_eq]

/-- A node that is replaced is gone. -/
theorem highlighted_of_replace {place : Place} {kind : NodeKind} {payload : Tree kind.payload}
    {chosen : Node}
    (replaced : (CodeBlocks.transformer highlighter ⟨kind, payload⟩).value = .replace chosen) :
    (@node place kind payload).highlighted highlighter = chosen.put place := by
  rw [highlighted_eq, outcome_of_replace replaced, Rebuilt.value]

theorem highlighted_citation (fields : Tree (.tuple (citationFields.map CitationField.shape))) :
    (citation fields).highlighted highlighter = .citation (fields.highlighted highlighter) := by
  rw [highlighted_eq, outcome_citation, Rebuilt.value_map, highlighted_eq]

theorem highlighted_present {content : Shape} (value : Tree content) :
    (present value).highlighted highlighter = .present (value.highlighted highlighter) := by
  rw [highlighted_eq, outcome_present, Rebuilt.value_map, highlighted_eq]

theorem highlighted_cons {element : Shape} (first : Tree element) (others : Tree (.list element)) :
    (cons first others).highlighted highlighter =
      .cons (first.highlighted highlighter) (others.highlighted highlighter) := by
  rw [highlighted_eq, outcome_cons, Rebuilt.value_both, highlighted_eq, highlighted_eq]

theorem highlighted_field {shape : Shape} {shapes : List Shape} (first : Tree shape)
    (others : Tree (.tuple shapes)) :
    (field first others).highlighted highlighter =
      .field (first.highlighted highlighter) (others.highlighted highlighter) := by
  rw [highlighted_eq, outcome_field, Rebuilt.value_both, highlighted_eq, highlighted_eq]

theorem highlighted_eq_self {shape : Shape} {tree : Tree shape}
    (same : tree.walk (CodeBlocks.transformer highlighter) = pure .same) :
    tree.highlighted highlighter = tree := by
  rw [highlighted_eq, outcome_eq_same same, Rebuilt.value]

/-- Highlighting a tree highlights its JSON form. -/
theorem toJson_highlighted {shape : Shape} (tree : Tree shape) :
    (tree.highlighted highlighter).toJson = tree.toJson.highlight highlighter := by
  induction tree with
  | text | integer | nothing | nil | absent | done =>
      rw [highlighted_eq_self rfl]
      rfl
  | attributes value =>
      have kept := @forall_parts_attributes (fun part => part.highlighted? highlighter = none)
        (fun _ => rfl) (fun _ => rfl) value
      rw [highlighted_eq_self rfl, toJson]
      exact (Json.rewrite_eq_self kept).symm
  | width value =>
      rw [highlighted_eq_self rfl]
      cases value <;> rfl
  | tag value =>
      -- A tag bears any name of its vocabulary, but it has no content.
      have kept : Json.highlighted? highlighter value.toJson = none := by
        rw [Json.highlighted?, Json.declaredCode?]
        split <;> rfl
      rw [highlighted_eq_self rfl]
      exact (Json.highlight_object kept).symm
  | @node place kind payload ih =>
      rcases @answer_cases highlighter kind payload with
        ⟨declined, kept⟩ | ⟨markup, -, replaced, found⟩
      · rw [Node.toJson, nodeToJson_eq] at kept
        rw [highlighted_of_decline declined, toJson_node, toJson_node, ih,
          Json.highlight_object kept, map_members fun _ => rfl]
      · rw [highlighted_of_replace replaced, ← toJson_root, ← toJson_root, Json.highlight]
        exact (Json.rewrite_of_some found).symm
  | citation fields ih =>
      rw [toJson_tuple, toJson_tuple, Json.highlight_array, Json.array.injEq] at ih
      have kept :
          Json.highlighted? highlighter (.object (citationNames.zip fields.items)) = none := by
        have unnamed : Keyed.get? (citationNames.zip fields.items) "t" = none := by
          rw [Keyed.get?_eq_none_iff, keys_zip_items]
          decide
        rw [Json.highlighted?, Json.declaredCode?, Json.member?, unnamed]
        rfl
      rw [highlighted_citation, toJson, toJson, ih, Json.highlight_object kept, Keyed.map_zip]
  | present value ih => rw [highlighted_present, toJson, ih, toJson]
  | cons first others ihFirst ihOthers | field first others ihFirst ihOthers =>
      simp only [toJson_list, toJson_tuple, Json.highlight_array, Json.array.injEq] at ihOthers
      simp only [highlighted_cons, highlighted_field, toJson, ihFirst, ihOthers,
        Json.highlight_array, List.map_cons]

/-- Raw markup belongs wherever a code block belongs. -/
theorem wellPlaced_highlighted {shape : Shape} {tree : Tree shape}
    (placed : tree.wellPlaced = true) : (tree.highlighted highlighter).wellPlaced = true := by
  induction tree with
  | text | integer | attributes | width | tag | nothing | nil | absent | done =>
      rw [highlighted_eq_self rfl, wellPlaced]
  | @node place kind payload ih =>
      simp only [wellPlaced, Bool.and_eq_true] at placed
      rcases @answer_cases highlighter kind payload with
        ⟨declined, -⟩ | ⟨markup, code, replaced, -⟩
      · rw [highlighted_of_decline declined]
        simp only [wellPlaced, placed.1, ih placed.2, Bool.and_self]
      · rw [highlighted_of_replace replaced]
        subst code
        cases place with
        | inline => exact absurd placed.1 (by decide)
        | block => rfl
  | citation fields ih =>
      rw [highlighted_citation]
      rw [wellPlaced] at placed ⊢
      exact ih placed
  | present value ih =>
      rw [highlighted_present]
      rw [wellPlaced] at placed ⊢
      exact ih placed
  | cons first others ihFirst ihOthers | field first others ihFirst ihOthers =>
      simp only [wellPlaced, Bool.and_eq_true] at placed
      simp only [highlighted_cons, highlighted_field, wellPlaced, ihFirst placed.1,
        ihOthers placed.2, Bool.and_self]

end Highlighted

end Tree

section Document

variable {highlighter : Highlighter}

/-- A document with its code blocks highlighted. -/
def highlighted (highlighter : Highlighter) (document : Document) : Document :=
  { document with blocks := document.blocks.map (Tree.highlighted highlighter) }

theorem value_walkBlocks (blocks : List Block) :
    (settled (walkBlocks (CodeBlocks.transformer highlighter) blocks)).value =
      blocks.map fun block =>
        (settled (block.walk (CodeBlocks.transformer highlighter))).value := by
  induction blocks with
  | nil => rfl
  | cons block others ih =>
      simp only [walkBlocks, settled_bind, settled_pure, Logged.value_bind, Logged.value_pure, ih,
        List.map_cons]

theorem value_list {α : Type} (befores : List α) (outcome : α → Rebuilt α) :
    (Rebuilt.list befores (befores.map outcome)).value befores =
      befores.map fun before => (outcome before).value before := by
  induction befores with
  | nil => rfl
  | cons before others ih => rw [List.map_cons, Rebuilt.list, Rebuilt.value_both, ih, List.map_cons]

theorem value_highlight (document : Document) :
    (document.highlight highlighter).value.value document = document.highlighted highlighter := by
  have rebuilt := Rebuilt.value_map (fun blocks => { document with blocks }) document.blocks
    (Rebuilt.list document.blocks (document.blocks.map fun block =>
      (settled (block.walk (CodeBlocks.transformer highlighter))).value))
  rw [value_list] at rebuilt
  rw [Document.highlight, Document.walk, settled_bind, Logged.value_bind, value_walkBlocks,
    settled_pure, Logged.value_pure, rebuild]
  exact rebuilt

/-- The filter gives the highlighted document of any input that is decoded. -/
theorem filter_of_decode {input : Input} {document : Document} (format : String)
    (decoded : decode input = .ok document) :
    (filter highlighter format input).run.value = .ok (document.highlighted highlighter) := by
  rw [← value_highlight, filter, receive, decoded]
  rfl

/-- Of the JSON form of a document only the blocks are highlighted. -/
theorem document_toJson_highlighted (document : Document) :
    (document.highlighted highlighter).toJson =
      document.toJson.mapMember "blocks" (Json.highlight highlighter) := by
  have blocks : (document.highlighted highlighter).blocks.map Tree.toJson =
      (document.blocks.map Tree.toJson).map (Json.highlight highlighter) := by
    rw [highlighted, List.map_map, List.map_map]
    exact List.map_congr_left fun block _ => Tree.toJson_highlighted block
  rw [Document.toJson, Document.toJson, blocks, ← Json.highlight_array]
  rfl

/-- A highlighted document can be encoded if the document could be: no block has become deeper, and
each of them is in its place. -/
theorem encodeText?_highlighted {input : Input} {document : Document}
    (decoded : decode input = .ok document) :
    (document.highlighted highlighter).encodeText? =
      .ok (document.highlighted highlighter).encodeText := by
  rcases shallow_of_decode decoded with ⟨placed, blocks, metadata⟩
  apply encodeText?_eq_ok
  · simp only [highlighted, List.forall_mem_map]
    intro block mem
    exact Tree.wellPlaced_highlighted (placed block mem)
  · simp only [highlighted, List.forall_mem_map, Tree.toJson_highlighted]
    intro block mem
    exact Nat.le_trans (Json.height_highlight_le _) (blocks block mem)
  · exact metadata

end Document

end DocHighlight.Document
