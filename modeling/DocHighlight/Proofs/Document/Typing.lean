import DocHighlight.Proofs.Document.Composition
import DocHighlight.Proofs.Document.Conformance
import DocHighlight.Proofs.Document.Rereading
import Mathlib.Data.List.Forall2
import Mathlib.Tactic.Choose

/-!
# Transformations keep to the grammar

A walk puts nodes together again without a look at what it puts in. Still its result is a document,
if the transformer puts only blocks in for blocks and only inlines in for inlines: whatever is not a
node stays as it is, and what is put in has the shape that is due in its place. Such a result is
decoded from its own text.

A transformer may have effects, so what is said about its answers is said of all of them.
-/

namespace DocHighlight

open Document

/-- Whatever value a run yields has a property: the run is one that yields values together with
proofs, with the proofs forgotten. -/
def Yields {m : Type → Type} [Functor m] {α : Type} (run : m α) (p : α → Prop) : Prop :=
  ∃ sure : m {value : α // p value}, Subtype.val <$> sure = run

namespace Yields

variable {m : Type → Type} [Monad m] [LawfulMonad m] {α β : Type} {p : α → Prop} {q : β → Prop}

theorem pure {value : α} (holds : p value) : Yields (Pure.pure value : m α) p :=
  ⟨Pure.pure ⟨value, holds⟩, map_pure ..⟩

theorem bind {run : m α} {next : α → m β} (first : Yields run p)
    (follows : ∀ value, p value → Yields (next value) q) : Yields (run >>= next) q := by
  rcases first with ⟨sure, rfl⟩
  choose sureNext same using follows
  refine ⟨sure >>= fun value => sureNext value.1 value.2, ?_⟩
  rw [map_bind, bind_map_left]
  apply bind_congr
  intro value
  exact same value.1 value.2

theorem lift {Other : Type} {run : m α} (holds : Yields run p) :
    Yields (liftM run : ExceptT Other m α) p := by
  rcases holds with ⟨sure, rfl⟩
  exact ⟨liftM sure, (liftM_map ..).symm⟩

theorem throw {Other : Type} (value : Other) :
    Yields (MonadExcept.throw value : ExceptT Other m α) p :=
  ⟨MonadExcept.throw value, by simp⟩

/-- What holds of a walked part holds of the whole that is put together from it. -/
theorem rebuilt_map {f : α → β} {before : α} {walked : m (Rebuilt α)}
    (part : Yields walked fun outcome => p (outcome.value before))
    (whole : ∀ value, p value → q (f value)) :
    Yields (walked >>= fun outcome => Pure.pure (outcome.map f))
      fun outcome => q (outcome.value (f before)) := by
  apply part.bind
  intro outcome holds
  apply Yields.pure
  rw [Rebuilt.value_map]
  exact whole _ holds

theorem rebuilt_both {γ : Type} {r : γ → Prop} {f : α → β → γ} {before : α} {others : β}
    {walked : m (Rebuilt α)} {walkedOthers : m (Rebuilt β)}
    (first : Yields walked fun outcome => p (outcome.value before))
    (second : Yields walkedOthers fun outcome => q (outcome.value others))
    (whole : ∀ value, p value → ∀ more, q more → r (f value more)) :
    Yields
      (walked >>= fun outcome => walkedOthers >>= fun outcomes =>
        Pure.pure (Rebuilt.both f before others outcome outcomes))
      fun outcome => r (outcome.value (f before others)) := by
  apply first.bind
  intro outcome holds
  apply second.bind
  intro outcomes holdsMore
  apply Yields.pure
  rw [Rebuilt.value_both]
  exact whole _ holds _ holdsMore

end Yields

/-- Of a run with a state it says that the values from all states have the property. -/
theorem Yields.of_state {σ α : Type} {p : α → Prop} {run : StateM σ α}
    (holds : ∀ state, p (run.run state).1) : Yields run p :=
  ⟨fun state => (⟨(run.run state).1, holds state⟩, (run.run state).2), rfl⟩

/-- Of a walk with proper answers only it says that what it settles on has the property. -/
theorem Yields.settled {α : Type} {p : α → Prop} {walked : ExceptT Empty Logged α}
    (yields : Yields walked p) : p (Document.settled walked).value := by
  rcases yields with ⟨sure, rfl⟩
  rw [← bind_pure_comp, Document.settled_bind, Logged.value_bind]
  exact (Document.settled sure).value.2

namespace Document

section Follows

variable {Other : Type}

/-- What becomes of a tree if a transformer may give certain answers: nodes are replaced, kept, or
declined, and then something becomes of their payloads. All else stays as it is. -/
inductive Follows (may : Node → Answer Other Node → Prop) :
    {shape : Shape} → Tree shape → Tree shape → Prop where
  | text (value : String) : Follows may (.text value) (.text value)
  | integer (value : Int) : Follows may (.integer value) (.integer value)
  | attributes (value : Attributes) : Follows may (.attributes value) (.attributes value)
  | width (value : ColumnWidth) : Follows may (.width value) (.width value)
  | tag {vocabulary : Vocabulary} (value : Tag vocabulary) : Follows may (.tag value) (.tag value)
  | nothing : Follows may .nothing .nothing
  | declined {place : Place} {kind : NodeKind} {payload result : Tree kind.payload}
      (answer : may ⟨kind, payload⟩ .decline) (inner : Follows may payload result) :
      Follows may (@Tree.node place kind payload) (.node kind result)
  | kept {place : Place} {kind : NodeKind} {payload : Tree kind.payload}
      (answer : may ⟨kind, payload⟩ .keep) :
      Follows may (@Tree.node place kind payload) (.node kind payload)
  | replaced {place : Place} {kind : NodeKind} {payload : Tree kind.payload} {chosen : Node}
      (answer : may ⟨kind, payload⟩ (.replace chosen)) :
      Follows may (@Tree.node place kind payload) (chosen.put place)
  | citation {fields results : Tree (.tuple (citationFields.map CitationField.shape))}
      (inner : Follows may fields results) : Follows may (.citation fields) (.citation results)
  | nil {element : Shape} : Follows may (@Tree.nil element) .nil
  | cons {element : Shape} {first result : Tree element} {others results : Tree (.list element)}
      (head : Follows may first result) (tail : Follows may others results) :
      Follows may (.cons first others) (.cons result results)
  | absent {content : Shape} : Follows may (@Tree.absent content) .absent
  | present {content : Shape} {value result : Tree content} (inner : Follows may value result) :
      Follows may (.present value) (.present result)
  | done : Follows may .done .done
  | field {shape : Shape} {shapes : List Shape} {first result : Tree shape}
      {others results : Tree (.tuple shapes)} (head : Follows may first result)
      (tail : Follows may others results) :
      Follows may (.field first others) (.field result results)

/-- Nothing is put in for a node that does not belong where the node belongs. -/
def KeepsPlaces (may : Node → Answer Other Node → Prop) : Prop :=
  ∀ node chosen, may node (.replace chosen) → ∀ place, (node.put place).wellPlaced = true →
    (chosen.put place).wellPlaced = true

variable {may : Node → Answer Other Node → Prop}

theorem Follows.wellPlaced (keeps : KeepsPlaces may) {shape : Shape} {tree result : Tree shape}
    (follows : Follows may tree result) (placed : tree.wellPlaced = true) :
    result.wellPlaced = true := by
  induction follows with
  | text | integer | attributes | width | tag | nothing | nil | absent | done | kept =>
      exact placed
  | declined _ _ ih =>
      rw [Tree.wellPlaced, Bool.and_eq_true] at placed ⊢
      exact ⟨placed.1, ih placed.2⟩
  | @replaced place kind payload chosen answer =>
      exact keeps ⟨kind, payload⟩ chosen answer place placed
  | citation _ ih | present _ ih =>
      rw [Tree.wellPlaced] at placed ⊢
      exact ih placed
  | cons _ _ ihHead ihTail | field _ _ ihHead ihTail =>
      rw [Tree.wellPlaced, Bool.and_eq_true] at placed ⊢
      exact ⟨ihHead placed.1, ihTail placed.2⟩

section Walk

variable {m : Type → Type} [Monad m] [LawfulMonad m] {transformer : Transformer Other m}
  (answers : ∀ node, Yields (transformer node) (may node))

include answers

theorem Tree.yields_walk {shape : Shape} (tree : Tree shape) :
    Yields (tree.walk transformer) fun outcome => Follows may tree (outcome.value tree) := by
  induction tree with
  | text value => exact .pure (.text value)
  | integer value => exact .pure (.integer value)
  | attributes value => exact .pure (.attributes value)
  | width value => exact .pure (.width value)
  | tag value => exact .pure (.tag value)
  | nothing => exact .pure .nothing
  | nil => exact .pure .nil
  | absent => exact .pure .absent
  | done => exact .pure .done
  | @node place kind payload ih =>
      rw [Tree.walk]
      -- Of the answer nothing is known but that it may be given.
      apply Yields.bind (Yields.lift (answers ⟨kind, payload⟩))
      intro answer allowed
      cases answer with
      | decline => exact ih.rebuilt_map fun _ => .declined allowed
      | keep => exact .pure (.kept allowed)
      | replace chosen => exact .pure (.replaced allowed)
      | other value => exact .throw value
  | citation fields ih => exact ih.rebuilt_map fun _ => .citation
  | present value ih => exact ih.rebuilt_map fun _ => .present
  | cons first others ihFirst ihOthers =>
      exact ihFirst.rebuilt_both ihOthers fun _ head _ => .cons head
  | field first others ihFirst ihOthers =>
      exact ihFirst.rebuilt_both ihOthers fun _ head _ => .field head

theorem yields_walkBlocks (blocks : List Block) :
    Yields (walkBlocks transformer blocks) fun outcomes =>
      List.Forall₂ (Follows may) blocks ((Rebuilt.list blocks outcomes).value blocks) := by
  induction blocks with
  | nil => exact .pure .nil
  | cons block blocks ih =>
      rw [walkBlocks]
      apply Yields.bind (Tree.yields_walk answers block)
      intro outcome follows
      apply Yields.bind ih
      intro outcomes followsOthers
      apply Yields.pure
      simp only [Rebuilt.list, Rebuilt.value_both]
      exact .cons follows followsOthers

end Walk

end Follows

/-- Whether a column width is not given as a floating-point number. -/
def ColumnWidth.isIntegral : ColumnWidth → Bool
  | .standard | .integer _ => true
  | .float _ => false

theorem integral_integer (value : Int) : (Json.integer value).Integral := by
  intro part mem
  rw [List.mem_singleton.mp mem]
  rfl

theorem integral_named (name : String) : (Json.object [("t", .string name)]).Integral := by
  apply Json.ofNumbers_isFloat.parts_object.mpr
  rw [List.forall_mem_singleton]
  exact Json.ofNumbers_isFloat.parts_string name

theorem integral_cons {value : Json} {values : List Json} (head : value.Integral)
    (tail : (Json.array values).Integral) : (Json.array (value :: values)).Integral := by
  have numbers := Json.ofNumbers_isFloat
  apply numbers.parts_array.mpr
  exact List.forall_mem_cons.mpr ⟨head, numbers.parts_array.mp tail⟩

theorem integral_width {width : ColumnWidth} (integral : width.isIntegral = true) :
    width.toJson.Integral := by
  cases width with
  | standard => exact integral_named "ColWidthDefault"
  | integer value =>
      apply Json.ofNumbers_isFloat.parts_object.mpr
      rw [List.forall_mem_cons, List.forall_mem_singleton]
      exact ⟨Json.ofNumbers_isFloat.parts_string "ColWidth", integral_integer value⟩
  | float value => cases integral

/-- The only numbers in the JSON form of a tree that may not be integers are column widths. -/
theorem integral_toJson {shape : Shape} {tree : Tree shape}
    (widths : ∀ width ∈ tree.widths, width.isIntegral = true) : tree.toJson.Integral := by
  have numbers := Json.ofNumbers_isFloat
  induction tree with
  | text text => exact numbers.parts_string text
  | integer value => exact integral_integer value
  | attributes value => exact forall_parts_attributes (fun _ => rfl) (fun _ => rfl) value
  | width width => exact integral_width (widths width (List.mem_singleton_self _))
  | tag tag => exact integral_named tag.name
  | nothing | absent => exact numbers.parts_null
  | nil | done => exact numbers.parts_array.mpr (by simp)
  | node kind payload ih =>
      rw [Tree.widths] at widths
      rw [toJson_node]
      apply numbers.parts_object.mpr
      intro member mem
      rcases mem_members mem with rfl | ⟨rfl, -⟩
      · exact numbers.parts_string _
      · exact ih widths
  | citation fields ih =>
      rw [Tree.widths] at widths
      have inner := ih widths
      rw [toJson_tuple] at inner
      rw [Tree.toJson]
      apply numbers.parts_object.mpr
      intro member mem
      exact numbers.parts_array.mp inner _ (List.of_mem_zip mem).2
  | present value ih =>
      rw [Tree.widths] at widths
      rw [Tree.toJson]
      exact ih widths
  | cons first others ihFirst ihOthers =>
      rw [Tree.widths, List.forall_mem_append] at widths
      have tail := ihOthers widths.2
      rw [toJson_list] at tail
      rw [Tree.toJson]
      exact integral_cons (ihFirst widths.1) tail
  | field first others ihFirst ihOthers =>
      rw [Tree.widths, List.forall_mem_append] at widths
      have tail := ihOthers widths.2
      rw [toJson_tuple] at tail
      rw [Tree.toJson]
      exact integral_cons (ihFirst widths.1) tail

theorem integral_document {document : Document}
    (widths : ∀ block ∈ document.blocks, ∀ width ∈ block.widths, width.isIntegral = true)
    (metadata : (Json.object document.metadata).Integral) : document.toJson.Integral := by
  have numbers := Json.ofNumbers_isFloat
  rw [Document.toJson]
  apply numbers.parts_object.mpr
  simp only [List.forall_mem_cons, List.not_mem_nil, false_imp_iff, implies_true, and_true]
  refine ⟨?_, metadata, ?_⟩
  · rw [numbers.parts_array, List.forall_mem_map]
    intro value _
    exact integral_integer value
  · rw [numbers.parts_array, List.forall_mem_map]
    intro block mem
    exact integral_toJson (widths block mem)

/-- A document that comes from another one by answers that may be given. It is of the documented
form, and decoded from its own text if its numbers are integers and the text keeps to the limits of
the reader. -/
structure KeepsGrammar {Other : Type} (may : Node → Answer Other Node → Prop)
    (before after : Document) : Prop where
  version : after.version = before.version
  metadata : after.metadata = before.metadata
  follows : List.Forall₂ (Follows may) before.blocks after.blocks
  placed : ∀ block ∈ after.blocks, block.wellPlaced = true
  conforms : ConformsDocument .documented after.toJson
  reread : (∀ block ∈ after.blocks, ∀ width ∈ block.widths, width.isIntegral = true) →
    (Json.object after.metadata).Integral → after.toJson.FitsIn .standard →
      after.encodeText? = .ok after.encodeText ∧
        decode (.characters after.encodeText) = .ok after ∧
        decode (.bytes after.encode) = .ok after

section KeepsGrammar

variable {Other : Type} {may : Node → Answer Other Node → Prop}

theorem conforms_toJson {document : Document}
    (placed : ∀ block ∈ document.blocks, block.wellPlaced = true)
    (distinct : (Json.object document.metadata).DistinctKeys) :
    ConformsDocument .documented document.toJson := by
  have reads := readsDocument_toJson placed
  exact (reads.conforms (document_toJson_distinct distinct)).2 rfl

theorem forall₂_wellPlaced (keeps : KeepsPlaces may) {blocks results : List Block}
    (follows : List.Forall₂ (Follows may) blocks results)
    (placed : ∀ block ∈ blocks, block.wellPlaced = true) :
    ∀ result ∈ results, result.wellPlaced = true := by
  induction follows with
  | nil => exact placed
  | cons head tail ih =>
      rcases List.forall_mem_cons.mp placed with ⟨here, there⟩
      exact List.forall_mem_cons.mpr ⟨head.wellPlaced keeps here, ih there⟩

theorem keepsGrammar (keeps : KeepsPlaces may) {input : Input} {document : Document}
    (decoded : decode input = .ok document) {blocks : List Block}
    (follows : List.Forall₂ (Follows may) document.blocks blocks) :
    KeepsGrammar may document { document with blocks } := by
  rcases decode_eq_ok_iff.mp decoded with ⟨value, parses, reads⟩
  have distinct := reads.distinct_metadata parses.distinct
  have placed := forall₂_wellPlaced keeps follows reads.wellPlaced
  refine ⟨rfl, rfl, follows, placed, conforms_toJson placed distinct, ?_⟩
  -- Only now do numbers matter: a float is read as what its spelling says.
  intro widths metadata fits
  have integral := integral_document widths metadata
  exact ⟨encodeText?_of_fits placed fits, decode_of_fits placed distinct integral fits⟩

theorem yields_document_walk {m : Type → Type} [Monad m] [LawfulMonad m]
    {transformer : Transformer Other m} (answers : ∀ node, Yields (transformer node) (may node))
    (keeps : KeepsPlaces may) {input : Input} {document : Document}
    (decoded : decode input = .ok document) :
    Yields (document.walk transformer) fun outcome =>
      KeepsGrammar may document (outcome.value document) := by
  rw [Document.walk]
  apply Yields.bind (yields_walkBlocks answers document.blocks)
  intro outcomes follows
  apply Yields.pure
  have rebuilt : (rebuild document outcomes).value document =
      { document with blocks := (Rebuilt.list document.blocks outcomes).value document.blocks } :=
    Rebuilt.value_map (fun blocks => { document with blocks }) document.blocks _
  rw [rebuilt]
  exact keepsGrammar keeps decoded follows

end KeepsGrammar

/-- The answer that the highlighting of code blocks gives. -/
def CodeBlockAnswer (highlighter : Highlighter) (node : Node) (answer : Answer Empty Node) : Prop :=
  answer = (CodeBlocks.transformer highlighter node).value

theorem yields_codeBlockAnswer (highlighter : Highlighter) (node : Node) :
    Yields (CodeBlocks.transformer highlighter node) (CodeBlockAnswer highlighter node) :=
  ⟨⟨⟨_, rfl⟩, (CodeBlocks.transformer highlighter node).events⟩, by simp [Functor.map]⟩

/-- Blocks belong to no other places. -/
theorem eq_block_of_wellPlaced {node : Node} {place : Place} (block : node.kind ∈ Place.block.kinds)
    (placed : (node.put place).wellPlaced = true) : place = .block := by
  have apart : ∀ kind ∈ Place.block.kinds, kind.fits .inline = false := by
    decide
  rw [Node.put, Tree.wellPlaced, Bool.and_eq_true] at placed
  cases place with
  | inline =>
      rw [apart node.kind block] at placed
      cases placed.1
  | block => rfl

/-- A code block is a block, and so is the raw markup that is put in for it. -/
theorem keepsPlaces_codeBlockAnswer (highlighter : Highlighter) :
    KeepsPlaces (CodeBlockAnswer highlighter) := by
  intro node chosen answer place placed
  rcases @answer_cases highlighter node.kind node.payload with
    ⟨declined, -⟩ | ⟨markup, code, replaced, -⟩
  · rw [CodeBlockAnswer, declined] at answer
    cases answer
  · rw [CodeBlockAnswer, replaced] at answer
    cases answer
    rw [eq_block_of_wellPlaced (by rw [code]; decide) placed]
    rfl

/-- Whatever answers a transformer may give, as long as it puts nothing in a place where it does not
belong: the walk of a decoded document yields a document of the documented form again. Highlighting
of code blocks is such a transformer, whatever languages are registered. -/
theorem walk_keeps_grammar :
    (∀ {Other : Type} {m : Type → Type} [Monad m] [LawfulMonad m]
        (transformer : Transformer Other m) (may : Node → Answer Other Node → Prop),
      (∀ node, Yields (transformer node) (may node)) → KeepsPlaces may →
        ∀ {input : Input} {document : Document}, decode input = .ok document →
          Yields (document.walk transformer) fun outcome =>
            KeepsGrammar may document (outcome.value document)) ∧
    ∀ registry : Registry,
      (∀ node, Yields (CodeBlocks.transformer registry.highlighter node)
        (CodeBlockAnswer registry.highlighter node)) ∧
      KeepsPlaces (CodeBlockAnswer registry.highlighter) ∧
      ∀ {input : Input} {document : Document}, decode input = .ok document →
        KeepsGrammar (CodeBlockAnswer registry.highlighter) document
          (document.highlighted registry.highlighter) := by
  constructor
  · intro Other m _ _ transformer may answers keeps input document decoded
    exact yields_document_walk answers keeps decoded
  · intro registry
    have answers := yields_codeBlockAnswer registry.highlighter
    have keeps := keepsPlaces_codeBlockAnswer registry.highlighter
    refine ⟨answers, keeps, ?_⟩
    intro input document decoded
    have settled := (yields_document_walk answers keeps decoded).settled
    rwa [← Document.highlight, value_highlight] at settled

/-- Numbers the empty blocks of a document. -/
def numberNulls : Transformer Empty (StateM Nat)
  | ⟨.null, _⟩ => do
      let count ← get
      set (count + 1)
      return .replace ⟨.plain, .cons (Node.put (.str (toString count)) .inline) .nil⟩
  | _ => return .decline

/-- An empty block may be replaced by a paragraph of a word, and nothing else may. -/
def NumberedNull (node : Node) (answer : Answer Empty Node) : Prop :=
  answer = .decline ∨ node.kind = .null ∧
    ∃ text, answer = .replace ⟨.plain, .cons (Node.put (.str text) .inline) .nil⟩

theorem yields_numberNulls (node : Node) : Yields (numberNulls node) (NumberedNull node) := by
  rcases node with ⟨kind, payload⟩
  cases kind with
  | null =>
      apply Yields.of_state
      intro count
      exact .inr ⟨rfl, toString count, rfl⟩
  | _ => exact .pure (.inl rfl)

theorem keepsPlaces_numberedNull : KeepsPlaces NumberedNull := by
  intro node chosen answer place placed
  rcases answer with declined | ⟨null, text, replaced⟩
  · cases declined
  · cases replaced
    rw [eq_block_of_wellPlaced (by rw [null]; decide) placed]
    rfl

/-- The empty block in a footnote behind a citation is replaced by a numbered one. Code in a quote
is highlighted, and what comes out is decoded from its own text. -/
theorem walk_keeps_grammar_citing :
    (decode (.characters citingDocument.encodeText) = .ok citingDocument ∧
      (∀ node, Yields (numberNulls node) (NumberedNull node)) ∧ KeepsPlaces NumberedNull ∧
      Yields (citingDocument.walk numberNulls) fun outcome =>
        KeepsGrammar NumberedNull citingDocument (outcome.value citingDocument)) ∧
    decode (.characters mixedDocument.encodeText) = .ok mixedDocument ∧
      KeepsGrammar (CodeBlockAnswer shellRegistry.highlighter) mixedDocument
        (mixedDocument.highlighted shellRegistry.highlighter) ∧
      decode (.bytes (mixedDocument.highlighted shellRegistry.highlighter).encode) =
        .ok (mixedDocument.highlighted shellRegistry.highlighter) := by
  have decoded : decode (.characters citingDocument.encodeText) = .ok citingDocument :=
    (decode_of_fits (by decide) (by decide) (by decide) (by decide)).1
  have decodedMixed : decode (.characters mixedDocument.encodeText) = .ok mixedDocument :=
    (decode_of_fits (by decide) (by decide) (by decide) (by decide)).1
  have kept := (walk_keeps_grammar.2 shellRegistry).2.2 decodedMixed
  have yields := walk_keeps_grammar.1 numberNulls NumberedNull yields_numberNulls
    keepsPlaces_numberedNull decoded
  refine ⟨⟨decoded, yields_numberNulls, keepsPlaces_numberedNull, yields⟩, decodedMixed, kept, ?_⟩
  exact (kept.reread (by decide +kernel) (by decide +kernel) (by decide +kernel)).2.2

end Document

end DocHighlight
