import DocHighlight.Proofs.Document.Codec
import DocHighlight.Proofs.Json.Tags

/-!
# The nodes of a tree

The nodes of a tree, each before those in it and otherwise in the order of payloads, are just the
values in its JSON form that are written like nodes. So they come in the order in which their tags
stand in the text of the tree: tags of vocabularies, column widths, attributes and citations are not
written like nodes, since no vocabulary has a word that is also the name of a kind.
-/

namespace DocHighlight

open Document

/-- The nodes of a tree in the order in which they are written. -/
def Document.Tree.nodes {shape : Shape} : Tree shape → List Node
  | .node kind payload => ⟨kind, payload⟩ :: payload.nodes
  | .citation fields => fields.nodes
  | .cons first others => first.nodes ++ others.nodes
  | .present value => value.nodes
  | .field value more => value.nodes ++ more.nodes
  | .text _ | .integer _ | .attributes _ | .width _ | .tag _ | .nothing | .nil | .absent | .done =>
      []

/-- A node and the nodes in it. -/
def Document.Node.nodes (node : Node) : List Node :=
  node :: node.payload.nodes

/-- The nodes in the blocks of a document. -/
def Document.nodes (document : Document) : List Node :=
  document.blocks.flatMap Tree.nodes

namespace Json

theorem tagged_array (elements : List Json) :
    (array elements).tagged = elements.flatMap tagged := by
  rw [tagged, parts, List.filter_cons_of_neg Bool.noConfusion]
  induction elements with
  | nil => rfl
  | cons element elements ih =>
      rw [partsOfElements, List.filter_append, ih, List.flatMap_cons, tagged]

theorem isTagged_of_ne {key : String} (other : key ≠ "t") (value : Json)
    (members : List (String × Json)) : isTagged (object ((key, value) :: members)) = false := by
  cases value <;> simp [isTagged, other]

theorem partsOfMembers_zip {names : List String} {values : List Json}
    (length : values.length ≤ names.length) :
    partsOfMembers (names.zip values) = partsOfElements values := by
  induction values generalizing names with
  | nil => rw [List.zip_nil_right, partsOfMembers, partsOfElements]
  | cons value values ih =>
      cases names with
      | nil => cases length
      | cons name names =>
          rw [List.zip_cons_cons, partsOfMembers, partsOfElements,
            ih (Nat.le_of_succ_le_succ length)]

theorem value_suffix_writeMembers (key : String) (value : Json) (others : List (String × Json)) :
    value.write ++ writeMembers others <:+ writeMembers ((key, value) :: others) := by
  rw [writeMembers, List.append_cons]
  exact (List.suffix_append _ _).trans (List.suffix_cons _ _)

theorem value_suffix_write (key : String) (value : Json) (others : List (String × Json)) :
    value.write ++ writeMembers others <:+ (object ((key, value) :: others)).write := by
  rw [write, List.append_cons]
  exact (List.suffix_append _ _).trans (List.suffix_cons _ _)

end Json

namespace Document

theorem tagged_attributes (attributes : Attributes) : attributes.toJson.tagged = [] := by
  rw [Json.tagged, List.filter_eq_nil_iff]
  exact forall_parts_attributes (fun _ => Bool.noConfusion) (fun _ => Bool.noConfusion) attributes

/-- No word of a vocabulary is the name of a kind. -/
theorem name_not_mem_names (vocabulary : Vocabulary) :
    ∀ kind ∈ Json.nodeKinds, kind.name ∉ vocabulary.names := by
  cases vocabulary <;> decide

theorem tagged_tag {vocabulary : Vocabulary} (tag : Tag vocabulary) : tag.toJson.tagged = [] := by
  have untagged : ¬(Json.object [("t", .string tag.name)]).isTagged = true := by
    rw [Json.isTagged, Bool.and_eq_true, List.any_eq_true]
    rintro ⟨-, kind, mem, same⟩
    have known := tag.known
    rw [← of_decide_eq_true same] at known
    exact name_not_mem_names vocabulary kind mem known
  rw [Json.tagged, Tag.toJson, Json.parts, List.filter_cons_of_neg untagged]
  rfl

theorem tagged_width (width : ColumnWidth) : width.toJson.tagged = [] := by
  cases width <;> rfl

theorem tagged_of_nothing {shape : Shape} (bare : shape = .nothing) (tree : Tree shape) :
    tree.toJson.tagged = [] := by
  subst bare
  cases tree
  rfl

/-- A node is written like one, and what is written like one in it stands in its payload. -/
theorem tagged_node {kind : NodeKind} (payload : Tree kind.payload) :
    (Node.toJson ⟨kind, payload⟩).tagged =
      Node.toJson ⟨kind, payload⟩ :: payload.toJson.tagged := by
  have named : ∀ members, Json.isTagged (.object (("t", .string kind.name) :: members)) = true := by
    intro members
    simp only [Json.isTagged, decide_true, Bool.true_and, List.any_eq_true, decide_eq_true_eq]
    exact ⟨kind, Json.mem_nodeKinds kind, rfl⟩
  rw [Node.toJson, nodeToJson_eq]
  by_cases bare : kind.payload = .nothing
  · rw [members_of_bare bare, Json.tagged_object, List.filter_cons_of_pos (named _),
      tagged_of_nothing bare]
    rfl
  · have content : (Json.partsOfMembers [("c", payload.toJson)]).filter Json.isTagged =
        payload.toJson.tagged := by
      rw [Json.partsOfMembers, Json.partsOfMembers, List.append_nil, Json.tagged]
    rw [members_of_not_bare bare, Json.tagged_object, List.filter_cons_of_pos (named _), content]
    rfl

theorem tagged_citation {values : List Json} (length : values.length = citationNames.length) :
    (Json.object (citationNames.zip values)).tagged = values.flatMap Json.tagged := by
  rw [← Json.tagged_array, Json.tagged, Json.tagged, Json.parts, Json.parts,
    Json.partsOfMembers_zip (Nat.le_of_eq length), List.filter_cons_of_neg,
    List.filter_cons_of_neg Bool.noConfusion]
  cases values with
  | nil => exact Bool.noConfusion
  | cons value values =>
      have other := Json.isTagged_of_ne (by decide : "citationId" ≠ "t") value
      rw [citationNames, citationFields, List.map_cons, List.zip_cons_cons, other]
      exact Bool.noConfusion

/-- What is written like a node in a tree is written of its nodes, in order. -/
theorem tagged_toJson {shape : Shape} (tree : Tree shape) :
    tree.toJson.tagged = tree.nodes.map Node.toJson := by
  induction tree with
  | text | integer | nothing | nil | absent | done => rfl
  | attributes attributes => exact tagged_attributes attributes
  | width width => exact tagged_width width
  | tag tag => exact tagged_tag tag
  | @node place kind payload ih =>
      rw [← Tree.toJson_root, Tree.root_node, tagged_node, ih, Tree.nodes, List.map_cons]
  | citation fields ih =>
      rw [toJson_tuple, Json.tagged_array] at ih
      rw [Tree.toJson, tagged_citation (by rw [length_items]; rfl), ih, Tree.nodes]
  | present value ih => rw [Tree.toJson, Tree.nodes, ih]
  | cons first others ihFirst ihOthers | field first others ihFirst ihOthers =>
      simp only [toJson_list, toJson_tuple, Json.tagged_array] at ihOthers
      rw [Tree.toJson, Json.tagged_array, List.flatMap_cons, ihFirst, ihOthers, Tree.nodes,
        List.map_append]

/-- Right behind each of the nodes come those in it. -/
def Nested (nodes : List Node) : Prop :=
  ∀ node after, node :: after <:+ nodes → node.payload.nodes <+: after

theorem Nested.cons {node : Node} {nodes : List Node} (inside : node.payload.nodes <+: nodes)
    (nested : Nested nodes) : Nested (node :: nodes) := by
  intro other after suffix
  rcases List.suffix_cons_iff.mp suffix with same | later
  · rw [List.cons.injEq] at same
    rw [same.1, same.2]
    exact inside
  · exact nested other after later

theorem Nested.append {nodes others : List Node} (nested : Nested nodes)
    (nestedOthers : Nested others) : Nested (nodes ++ others) := by
  induction nodes with
  | nil => exact nestedOthers
  | cons node nodes ih =>
      have here := nested node nodes (List.suffix_refl _)
      have there := ih fun other after suffix =>
        nested other after (suffix.trans (List.suffix_cons node nodes))
      exact .cons (here.trans (List.prefix_append nodes others)) there

theorem nested_nil : Nested [] := by
  intro node after suffix
  cases List.suffix_nil.mp suffix

theorem nested_nodes {shape : Shape} (tree : Tree shape) : Nested tree.nodes := by
  induction tree with
  | text | integer | attributes | width | tag | nothing | nil | absent | done => exact nested_nil
  | node kind payload ih => exact .cons (List.prefix_refl _) ih
  | citation fields ih | present value ih => exact ih
  | cons first others ihFirst ihOthers | field first others ihFirst ihOthers =>
      exact ihFirst.append ihOthers

theorem Node.nested (node : Node) : Nested node.nodes :=
  .cons (List.prefix_refl _) (nested_nodes node.payload)

theorem nested_document (document : Document) : Nested document.nodes := by
  rw [Document.nodes]
  induction document.blocks with
  | nil => exact nested_nil
  | cons block blocks ih => exact (nested_nodes block).append ih

/-- The tags in a text belong to given nodes, one by one and in order: at each of them the text of
the node begins. -/
def InWrittenOrder (text : List Char) (nodes : List Node) : Prop :=
  List.Forall₂ (fun place node => node.toJson.write <+: place) (Json.tagPlaces text) nodes

theorem inWrittenOrder {value : Json} {nodes : List Node}
    (tagged : value.tagged = nodes.map Node.toJson) : InWrittenOrder value.write nodes := by
  have places := Json.forall₂_tagPlaces_write value
  rwa [tagged, List.forall₂_map_right_iff] at places

theorem Node.inWrittenOrder (node : Node) : InWrittenOrder node.toJson.write node.nodes := by
  apply Document.inWrittenOrder
  rw [tagged_node, tagged_toJson, Node.nodes, List.map_cons]

/-- The text of the blocks of a document. -/
def blocksText (document : Document) : List Char :=
  (Json.array (document.blocks.map Tree.toJson)).write

/-- The blocks stand at the end of the text of a document. -/
theorem blocksText_suffix (document : Document) :
    document.blocksText ++ ['\x7d'] <:+ document.encodeText := by
  rw [encodeText, Document.toJson]
  -- From the outside in: past the version, then past the metadata.
  refine List.IsSuffix.trans ?_ (Json.value_suffix_write _ _ _)
  refine List.IsSuffix.trans ?_ (List.suffix_append _ _)
  refine List.IsSuffix.trans ?_ (Json.value_suffix_writeMembers _ _ _)
  refine List.IsSuffix.trans ?_ (List.suffix_append _ _)
  exact Json.value_suffix_writeMembers "blocks" (.array (document.blocks.map Tree.toJson)) []

/-- The tags in the text of the blocks of a document belong to the nodes of the document. -/
theorem blocks_inWrittenOrder (document : Document) :
    InWrittenOrder document.blocksText document.nodes := by
  apply Document.inWrittenOrder
  rw [Json.tagged_array, Document.nodes, List.map_flatMap, List.flatMap_map]
  exact List.flatMap_congr fun block _ => tagged_toJson block

end Document

end DocHighlight
