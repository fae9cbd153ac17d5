import DocHighlight.Proofs.Document.Highlighting
import DocHighlight.Registry

/-!
# Highlighting twice

Highlighting with one highlighter and then with another is highlighting once, with the first where
it gives markup and with the second elsewhere: what the first replaced is raw markup, which nobody
looks into, and what it declined is still there as it was. A highlighter that can do nothing more
than the one before it leaves everything the same.
-/

namespace DocHighlight

/-- The highlighter that asks a second one where the first gives nothing. -/
def Highlighter.orElse (first second : Highlighter) : Highlighter :=
  fun language text => (first language text).or (second language text)

namespace Document

/-- The node that is put in for another one, if any is. -/
def Node.replacement? (highlighter : Highlighter) (node : Node) : Option Node :=
  match (CodeBlocks.transformer highlighter node).value with
  | .replace chosen => some chosen
  | _ => none

theorem code_or_other (node : Node) :
    (∃ attributes text, node = .code attributes text) ∨ node.kind ≠ .codeBlock := by
  rcases node with ⟨kind, payload⟩
  by_cases code : kind = .codeBlock
  · subst code
    rcases exists_code payload with ⟨attributes, text, rfl⟩
    exact .inl ⟨attributes, text, rfl⟩
  · exact .inr code

section Replacement

variable {highlighter : Highlighter}

theorem replacement?_code (attributes : Attributes) (text : String) :
    (Node.code attributes text).replacement? highlighter =
      attributes.language?.bind fun language => (highlighter language text).map fun markup =>
        .raw CodeBlocks.targetFormat (CodeBlocks.wrap language markup) := by
  rw [Node.replacement?, transformer_code, CodeBlocks.answer]
  cases attributes.language? with
  | none => rfl
  | some language =>
      simp only [Option.bind_some]
      cases highlighter language text <;> rfl

theorem replacement?_of_ne {node : Node} (other : node.kind ≠ .codeBlock) :
    node.replacement? highlighter = none := by
  rw [Node.replacement?, transformer_of_ne other]
  rfl

theorem declined_of_none {node : Node} (missing : node.replacement? highlighter = none) :
    (CodeBlocks.transformer highlighter node).value = .decline := by
  rcases @answer_cases highlighter node.kind node.payload with
    ⟨declined, -⟩ | ⟨markup, -, replaced, -⟩
  · exact declined
  · rw [Node.replacement?, replaced] at missing
    cases missing

theorem replaced_of_some {node chosen : Node}
    (found : node.replacement? highlighter = some chosen) :
    (CodeBlocks.transformer highlighter node).value = .replace chosen ∧
      ∃ markup, chosen = .raw CodeBlocks.targetFormat markup := by
  rcases @answer_cases highlighter node.kind node.payload with
    ⟨declined, -⟩ | ⟨markup, -, replaced, -⟩
  · rw [Node.replacement?, declined] at found
    cases found
  · rw [Node.replacement?, replaced] at found
    cases found
    exact ⟨replaced, markup, rfl⟩

theorem replacement?_orElse (first second : Highlighter) (node : Node) :
    node.replacement? (first.orElse second) =
      (node.replacement? first).or (node.replacement? second) := by
  rcases code_or_other node with ⟨attributes, text, rfl⟩ | other
  · rw [replacement?_code, replacement?_code, replacement?_code]
    cases attributes.language? with
    | none => rfl
    | some language =>
        simp only [Option.bind_some, Highlighter.orElse]
        cases first language text <;> rfl
  · rw [replacement?_of_ne other, replacement?_of_ne other, replacement?_of_ne other,
      Option.or_none]

/-- What is put in for a node does not change when what is in the node is highlighted. -/
theorem replacement?_highlighted (first : Highlighter) (node : Node) :
    Node.replacement? highlighter ⟨node.kind, node.payload.highlighted first⟩ =
      node.replacement? highlighter := by
  rcases code_or_other node with ⟨attributes, text, rfl⟩ | other
  · rfl
  · rw [replacement?_of_ne other]
    exact replacement?_of_ne other

/-- A highlighter that gives nothing for any code for which another one gives nothing puts nothing
in for any node for which the other one puts nothing in. -/
theorem replacement?_eq_none_of {first second : Highlighter}
    (nothingNew : ∀ language text, first language text = none → second language text = none)
    {node : Node} (missing : node.replacement? first = none) :
    node.replacement? second = none := by
  rcases code_or_other node with ⟨attributes, text, rfl⟩ | other
  · rw [replacement?_code, Option.bind_eq_none_iff] at missing ⊢
    intro language mem
    rw [Option.map_eq_none_iff]
    exact nothingNew language text (Option.map_eq_none_iff.mp (missing language mem))
  · exact replacement?_of_ne other

end Replacement

namespace Tree

section Node

variable {highlighter : Highlighter} {place : Place} {kind : NodeKind} {payload : Tree kind.payload}

theorem highlighted_of_none (missing : Node.replacement? highlighter ⟨kind, payload⟩ = none) :
    (@node place kind payload).highlighted highlighter =
      .node kind (payload.highlighted highlighter) := by
  exact highlighted_of_decline (declined_of_none missing)

theorem highlighted_of_some {chosen : Node}
    (found : Node.replacement? highlighter ⟨kind, payload⟩ = some chosen) :
    (@node place kind payload).highlighted highlighter = chosen.put place := by
  exact highlighted_of_replace (replaced_of_some found).1

theorem highlighted_raw (format text : String) :
    ((Node.raw format text).put place).highlighted highlighter = (Node.raw format text).put place :=
  highlighted_eq_self rfl

end Node

/-- Highlighting a tree with two highlighters, one after the other, is highlighting it once. -/
theorem highlighted_highlighted (first second : Highlighter) {shape : Shape} (tree : Tree shape) :
    (tree.highlighted first).highlighted second = tree.highlighted (first.orElse second) := by
  induction tree with
  | text | integer | attributes | width | tag | nothing | nil | absent | done =>
      rw [highlighted_eq_self rfl, highlighted_eq_self rfl, highlighted_eq_self rfl]
  | @node place kind payload ih =>
      have both := replacement?_orElse first second ⟨kind, payload⟩
      cases found : Node.replacement? first ⟨kind, payload⟩ with
      | some chosen =>
          rw [found, Option.some_or] at both
          rcases (replaced_of_some found).2 with ⟨markup, rfl⟩
          rw [highlighted_of_some found, highlighted_of_some both, highlighted_raw]
      | none =>
          rw [found, Option.none_or] at both
          -- The second highlighter is offered the node with its children highlighted, not the node.
          have again := @replacement?_highlighted second first ⟨kind, payload⟩
          rw [highlighted_of_none found]
          cases foundSecond : Node.replacement? second ⟨kind, payload⟩ with
          | none =>
              rw [foundSecond] at both again
              rw [highlighted_of_none again, highlighted_of_none both, ih]
          | some chosen =>
              rw [foundSecond] at both again
              rw [highlighted_of_some again, highlighted_of_some both]
  | citation fields ih => simp only [highlighted_citation, ih]
  | present value ih => simp only [highlighted_present, ih]
  | cons first others ihFirst ihOthers => simp only [highlighted_cons, ihFirst, ihOthers]
  | field first others ihFirst ihOthers => simp only [highlighted_field, ihFirst, ihOthers]

/-- A highlighter that gives nothing where the one before it gave nothing leaves a tree the same. -/
theorem isSame_highlighted {first second : Highlighter}
    (nothingNew : ∀ language text, first language text = none → second language text = none)
    {shape : Shape} (tree : Tree shape) :
    ((tree.highlighted first).outcome second).isSame = true := by
  induction tree with
  | text | integer | attributes | width | tag | nothing | nil | absent | done =>
      rw [highlighted_eq_self rfl, outcome_eq_same rfl, Rebuilt.isSame]
  | @node place kind payload ih =>
      cases found : Node.replacement? first ⟨kind, payload⟩ with
      | some chosen =>
          rcases (replaced_of_some found).2 with ⟨markup, rfl⟩
          rw [highlighted_of_some found, outcome_eq_same rfl, Rebuilt.isSame]
      | none =>
          have noneSecond := replacement?_eq_none_of nothingNew found
          rw [← replacement?_highlighted first] at noneSecond
          rw [highlighted_of_none found, outcome_of_decline (declined_of_none noneSecond),
            Rebuilt.isSame_map, ih]
  | citation fields ih => rw [highlighted_citation, outcome_citation, Rebuilt.isSame_map, ih]
  | present value ih => rw [highlighted_present, outcome_present, Rebuilt.isSame_map, ih]
  | cons first others ihFirst ihOthers =>
      rw [highlighted_cons, outcome_cons, Rebuilt.isSame_both, ihFirst, ihOthers, Bool.and_self]
  | field first others ihFirst ihOthers =>
      rw [highlighted_field, outcome_field, Rebuilt.isSame_both, ihFirst, ihOthers, Bool.and_self]

end Tree

theorem highlighted_document_highlighted (first second : Highlighter) (document : Document) :
    (document.highlighted first).highlighted second =
      document.highlighted (first.orElse second) := by
  rw [highlighted, highlighted, highlighted, List.map_map]
  have blocks : document.blocks.map (Tree.highlighted second ∘ Tree.highlighted first) =
      document.blocks.map (Tree.highlighted (first.orElse second)) :=
    List.map_congr_left fun block _ => Tree.highlighted_highlighted first second block
  rw [blocks]

theorem isSame_list {α : Type} {befores : List α} {outcome : α → Rebuilt α}
    (same : ∀ before ∈ befores, (outcome before).isSame = true) :
    (Rebuilt.list befores (befores.map outcome)).isSame = true := by
  induction befores with
  | nil => rfl
  | cons before others ih =>
      rcases List.forall_mem_cons.mp same with ⟨here, there⟩
      rw [List.map_cons, Rebuilt.list, Rebuilt.isSame_both, here, ih there, Bool.and_self]

theorem isSame_document_highlighted {first second : Highlighter}
    (nothingNew : ∀ language text, first language text = none → second language text = none)
    (document : Document) :
    ((document.highlighted first).highlight second).value.isSame = true := by
  rw [Document.highlight, Document.walk, settled_bind, Logged.value_bind, value_walkBlocks,
    settled_pure, Logged.value_pure, rebuild, Rebuilt.isSame_map]
  apply isSame_list
  simp only [highlighted, List.forall_mem_map]
  exact fun block _ => Tree.isSame_highlighted nothingNew block

end Document

open Document

/-- Two registries that have the same lexer for every language that both of them have. -/
def Registry.Agrees (first second : Registry) : Prop :=
  ∀ language lexer other, first.lexer? language = some lexer →
    second.lexer? language = some other → lexer = other

theorem Registry.Agrees.orElse_comm {first second : Registry} (agrees : first.Agrees second) :
    first.highlighter.orElse second.highlighter = second.highlighter.orElse first.highlighter := by
  funext language text
  simp only [Highlighter.orElse, Registry.highlighter]
  cases found : first.lexer? language with
  | none => simp
  | some lexer =>
      cases foundSecond : second.lexer? language with
      | none => simp
      | some other =>
          rw [agrees language lexer other found foundSecond]

/-- Two highlightings in a row are one, with the second highlighter where the first gives nothing.
The second with the same registry leaves the document the same, and the order of two registries that
agree makes no difference. -/
theorem highlight_compose :
    (∀ (highlighter : Highlighter) (document : Document),
      (document.highlight highlighter).value.value document = document.highlighted highlighter) ∧
    (∀ (first second : Highlighter) (document : Document),
      (document.highlighted first).highlighted second =
        document.highlighted (first.orElse second)) ∧
    (∀ (registry : Registry) (document : Document),
      (document.highlighted registry.highlighter).highlighted registry.highlighter =
          document.highlighted registry.highlighter ∧
        ((document.highlighted registry.highlighter).highlight
          registry.highlighter).value.isSame = true) ∧
    ∀ first second : Registry, first.Agrees second → ∀ document : Document,
      (document.highlighted first.highlighter).highlighted second.highlighter =
        (document.highlighted second.highlighter).highlighted first.highlighter := by
  refine ⟨fun _ => value_highlight, highlighted_document_highlighted, fun registry document => ?_,
    fun first second agrees document => ?_⟩
  · have same : registry.highlighter.orElse registry.highlighter = registry.highlighter := by
      funext language text
      exact Option.or_self
    refine ⟨?_, isSame_document_highlighted (fun _ _ none => none) document⟩
    rw [highlighted_document_highlighted, same]
  · rw [highlighted_document_highlighted, highlighted_document_highlighted, agrees.orElse_comm]

def jsonLexer : Markup.Lexer :=
  ⟨"JSON", ["json"]⟩

/-- A registry of shell code and data. -/
def shellRegistry : Registry :=
  ⟨[("sh", ⟨"Bash", ["bash", "sh"]⟩), ("json", jsonLexer)]⟩

/-- A registry of data and markup. -/
def markupRegistry : Registry :=
  ⟨[("json", jsonLexer), ("xml", ⟨"XML", ["xml"]⟩)]⟩

theorem registries_agree : shellRegistry.Agrees markupRegistry := by
  intro language lexer other found foundOther
  have first := Keyed.mem_of_get? found
  have second := Keyed.mem_of_get? foundOther
  simp only [shellRegistry, markupRegistry, List.mem_cons, Prod.mk.injEq, List.not_mem_nil,
    or_false] at first second
  rcases first with ⟨rfl, rfl⟩ | ⟨rfl, rfl⟩
  · rcases second with ⟨same, -⟩ | ⟨same, -⟩ <;> exact absurd same (by decide)
  · rcases second with ⟨-, rfl⟩ | ⟨same, -⟩
    · rfl
    · exact absurd same (by decide)

/-- A document with code in three languages, of which one stands in a quote. -/
def mixedDocument : Document :=
  let code (language text : String) : Block := (Node.code ⟨"", [language], []⟩ text).put .block
  ⟨[1, 23], [],
    [code "sh" "ls", .node .blockQuote (.cons (code "json" "[1]") .nil), code "xml" "<a/>"]⟩

theorem highlight_compose_mixed :
    shellRegistry.Agrees markupRegistry ∧
      (mixedDocument.highlighted shellRegistry.highlighter).highlighted markupRegistry.highlighter =
        (mixedDocument.highlighted markupRegistry.highlighter).highlighted
          shellRegistry.highlighter :=
  ⟨registries_agree, highlight_compose.2.2.2 _ _ registries_agree mixedDocument⟩

end DocHighlight
