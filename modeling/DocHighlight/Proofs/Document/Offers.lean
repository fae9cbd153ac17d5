import DocHighlight.Document.Walk
import DocHighlight.Proofs.Document.MemberOrder
import DocHighlight.Proofs.Document.Nodes

/-!
# What a walk offers

A walk over a tree does what can be said of the list of its nodes alone: they are offered one after
the other, and behind a node that is replaced or kept as many are passed over as stand in it. So a
transformer that keeps account of what it is offered, and may answer as it likes on account of that,
is offered the nodes in the order in which they are written, each once, but for those in a replaced
one; and the first answer that is neither a replacement nor a refusal ends the walk.
-/

namespace DocHighlight.Document

section Offer

variable {Other : Type} {m : Type → Type} [Monad m]

/-- Offers nodes one after the other, after passing over the first few. -/
def offer (transformer : Transformer Other m) : (skip : Nat) → List Node → ExceptT Other m Unit
  | _, [] => return ()
  | skip + 1, _ :: others => offer transformer skip others
  | 0, node :: others => do
      match ← transformer node with
      | .decline => offer transformer 0 others
      | .keep | .replace _ => offer transformer node.payload.nodes.length others
      | .other value => throw value

variable {transformer : Transformer Other m}

theorem offer_pass (passed rest : List Node) :
    offer transformer passed.length (passed ++ rest) = offer transformer 0 rest := by
  induction passed with
  | nil => rfl
  | cons node passed ih => rw [List.length_cons, List.cons_append, offer, ih]

variable [LawfulMonad m]

/-- To offer the nodes of a tree and then others is to walk the tree and then offer the others. -/
theorem offer_nodes {shape : Shape} (tree : Tree shape) (rest : List Node) :
    offer transformer 0 (tree.nodes ++ rest) =
      tree.walk transformer >>= fun _ => offer transformer 0 rest := by
  induction tree generalizing rest with
  | text | integer | attributes | width | tag | nothing | nil | absent | done =>
      rw [Tree.walk, pure_bind, Tree.nodes, List.nil_append]
  | @node place kind payload ih =>
      rw [Tree.nodes, List.cons_append, offer, Tree.walk, bind_assoc]
      apply bind_congr
      intro answer
      -- After a refusal the nodes in the payload are next, after a replacement they are passed
      -- over.
      cases answer with
      | decline => simp only [ih, bind_assoc, pure_bind]
      | keep | replace chosen => simp only [offer_pass, pure_bind]
      | other value => exact (ExceptT.bind_throw ..).symm
  | citation fields ih | present value ih =>
      simp only [Tree.nodes, Tree.walk, ih, bind_assoc, pure_bind]
  | cons first others ihFirst ihOthers | field first others ihFirst ihOthers =>
      simp only [Tree.nodes, Tree.walk, List.append_assoc, ihFirst, ihOthers, bind_assoc, pure_bind]

theorem offer_blocks (blocks : List Block) (rest : List Node) :
    offer transformer 0 (blocks.flatMap Tree.nodes ++ rest) =
      walkBlocks transformer blocks >>= fun _ => offer transformer 0 rest := by
  induction blocks with
  | nil => rw [walkBlocks, pure_bind, List.flatMap_nil, List.nil_append]
  | cons block blocks ih =>
      simp only [walkBlocks, List.flatMap_cons, List.append_assoc, offer_nodes, ih, bind_assoc,
        pure_bind]

theorem walk_node_eq_offer (node : Node) :
    (fun _ => ()) <$> node.walk transformer = offer transformer 0 node.nodes := by
  have offered := @offer_nodes _ _ _ transformer _ _ (node.put .block) []
  rw [List.append_nil] at offered
  have same : node.nodes = (node.put .block).nodes := rfl
  rw [same, offered, Node.walk, map_bind]
  simp only [map_pure, offer]

theorem walk_document_eq_offer (document : Document) :
    (fun _ => ()) <$> document.walk transformer = offer transformer 0 document.nodes := by
  have offered := @offer_blocks _ _ _ transformer _ document.blocks []
  rw [List.append_nil] at offered
  rw [Document.nodes, offered, Document.walk, map_bind]
  simp only [map_pure, offer]

end Offer

section Recording

variable {Other : Type}

/-- The transformer that gives certain answers, which may depend on all that it was offered before,
and keeps account of what it is offered. -/
def recording (respond : List Node → Node → Answer Other Node) :
    Transformer Other (StateM (List Node)) := fun node => do
  let before ← get
  set (before ++ [node])
  return respond before node

variable (respond : List Node → Node → Answer Other Node)

/-- How many of the nodes behind a node are passed over after an answer. -/
def Answer.skip (node : Node) : Answer Other Node → Nat
  | .decline | .other _ => 0
  | .keep | .replace _ => node.payload.nodes.length

/-- The nodes that are due to be offered: all but those in a node that is replaced. -/
def due : (before : List Node) → (skip : Nat) → List Node → List Node
  | _, _, [] => []
  | before, skip + 1, _ :: others => due before skip others
  | before, 0, node :: others =>
      node :: due (before ++ [node]) ((respond before node).skip node) others

/-- Whether an answer is a replacement or a refusal. -/
def Answer.isProper {α : Type} : Answer Other α → Bool
  | .other _ => false
  | .decline | .keep | .replace _ => true

/-- What comes of offering nodes that are due: the first answer that is not proper ends it. -/
def offered : (before : List Node) → List Node → Except Other Unit × List Node
  | before, [] => (.ok (), before)
  | before, node :: others =>
      match respond before node with
      | .other value => (.error value, before ++ [node])
      | .decline | .keep | .replace _ => offered (before ++ [node]) others

theorem run_offer (before : List Node) (skip : Nat) (nodes : List Node) :
    (offer (recording respond) skip nodes).run.run before =
      offered respond before (due respond before skip nodes) := by
  induction nodes generalizing before skip with
  | nil => cases skip <;> rfl
  | cons node others ih =>
      cases skip with
      | succ skip => exact ih before skip
      | zero =>
          have answered : (offer (recording respond) 0 (node :: others)).run.run before =
              (match respond before node with
              | .decline => offer (recording respond) 0 others
              | .keep | .replace _ => offer (recording respond) node.payload.nodes.length others
              | .other value => throw value : ExceptT Other (StateM (List Node)) Unit).run.run
                (before ++ [node]) := rfl
          rw [answered, due, offered]
          cases respond before node with
          | decline => exact ih _ _
          | keep | replace chosen => exact ih _ _
          | other value => rfl

section Offered

variable {respond}

/-- If all answers are proper, then all nodes are offered. -/
theorem offered_of_proper {past nodes : List Node}
    (proper : ∀ before node after, nodes = before ++ node :: after →
      (respond (past ++ before) node).isProper = true) :
    offered respond past nodes = (.ok (), past ++ nodes) := by
  induction nodes generalizing past with
  | nil => rw [offered, List.append_nil]
  | cons node others ih =>
      have here := proper [] node others rfl
      rw [List.append_nil] at here
      have there := @ih (past ++ [node]) fun before node' after same => by
        have later := proper (node :: before) node' after (by rw [same, List.cons_append])
        rwa [List.append_assoc, List.singleton_append]
      rw [offered]
      cases answer : respond past node with
      | other value =>
          rw [answer] at here
          cases here
      | decline | keep | replace chosen => simpa using there

/-- At the first answer that is not proper nothing more is offered. -/
theorem offered_of_other {past nodes before after : List Node} {node : Node} {value : Other}
    (split : nodes = before ++ node :: after)
    (first : respond (past ++ before) node = .other value)
    (proper : ∀ earlier other later, before = earlier ++ other :: later →
      (respond (past ++ earlier) other).isProper = true) :
    offered respond past nodes = (.error value, past ++ (before ++ [node])) := by
  induction before generalizing past nodes with
  | nil =>
      rw [List.append_nil] at first
      rw [split, List.nil_append, offered, first, List.nil_append]
  | cons other before ih =>
      have here := proper [] other before rfl
      rw [List.append_nil] at here
      have there := @ih (past ++ [other]) (before ++ node :: after) rfl
        (by rwa [List.append_assoc, List.singleton_append])
        fun earlier other' later same => by
          have later := proper (other :: earlier) other' later (by rw [same, List.cons_append])
          rwa [List.append_assoc, List.singleton_append]
      rw [split, List.cons_append, offered]
      cases answer : respond past other with
      | other value =>
          rw [answer] at here
          cases here
      | decline | keep | replace chosen => simpa using there

end Offered

/-- How a walk ends, and the nodes that it has offered by then. -/
def account {α : Type} (walk : ExceptT Other (StateM (List Node)) α) :
    Except Other Unit × List Node :=
  ((fun _ => ()) <$> walk).run.run []

/-- A walk offers the nodes that are due, each once and in their order, and ends at the first answer
to one of them that is not proper. -/
structure OffersDue (nodes : List Node) (outcome : Except Other Unit × List Node) : Prop where
  succeeds : (∀ before node after, due respond [] 0 nodes = before ++ node :: after →
      (respond before node).isProper = true) →
    outcome = (.ok (), due respond [] 0 nodes)
  fails : ∀ before node after value, due respond [] 0 nodes = before ++ node :: after →
    (∀ earlier other later, before = earlier ++ other :: later →
      (respond earlier other).isProper = true) →
    respond before node = .other value → outcome = (.error value, before ++ [node])

theorem offersDue (nodes : List Node) :
    OffersDue respond nodes ((offer (recording respond) 0 nodes).run.run []) := by
  rw [run_offer]
  constructor
  · exact @offered_of_proper _ respond [] _
  · intro before node after value split proper first
    exact @offered_of_other _ respond [] _ before after node value split first proper

/-- A walk over a node or a document offers each node once, in the order in which they are written,
but for those in a replaced node, and fails exactly at the first answer that is not proper. The
nodes do not depend on the order in which members are given. -/
theorem walk_offers_in_written_order :
    (∀ node : Node, InWrittenOrder node.toJson.write node.nodes ∧ Nested node.nodes ∧
        OffersDue respond node.nodes (account (node.walk (recording respond)))) ∧
      (∀ document : Document, document.blocksText ++ ['\x7d'] <:+ document.encodeText ∧
        InWrittenOrder document.blocksText document.nodes ∧ Nested document.nodes ∧
        OffersDue respond document.nodes (account (document.walk (recording respond)))) ∧
      ∀ {input other : Input} {value changed : Json} {document : Document},
        input.Parses value → other.Parses changed → value.sorted = changed.sorted →
        decode input = .ok document →
        ∃ again, decode other = .ok again ∧ again.nodes = document.nodes := by
  refine ⟨fun node => ⟨node.inWrittenOrder, node.nested, ?_⟩,
    fun document => ⟨blocksText_suffix document, blocks_inWrittenOrder document,
      nested_document document, ?_⟩, ?_⟩
  · rw [account, walk_node_eq_offer]
    exact offersDue respond node.nodes
  · rw [account, walk_document_eq_offer]
    exact offersDue respond document.nodes
  · intro input other value changed document parses parsesOther same decoded
    rcases decode_of_sorted_eq parses parsesOther same decoded with ⟨metadata, -, decodedOther⟩
    exact ⟨_, decodedOther, rfl⟩

end Recording

/-- The members of a citation with a footnote behind it. -/
def footnoteMembers : List (String × Json) :=
  let footnote :=
    Json.object [("t", .string "Note"), ("c", .array [.object [("t", .string "Null")]])]
  citationNames.zip [.string "source", .array [], .array [footnote],
    .object [("t", .string "NormalCitation")], .integer 1, .integer 0]

/-- A document of one paragraph, with a citation of given members and a space. -/
def citingValue (members : List (String × Json)) : Json :=
  let space := Json.object [("t", .string "Space")]
  let cite :=
    Json.object [("t", .string "Cite"), ("c", .array [.array [.object members], .array [space]])]
  .object [("pandoc-api-version", .array [.integer 1, .integer 23]), ("meta", .object []),
    ("blocks", .array [.object [("t", .string "Para"), ("c", .array [cite])]])]

theorem sorted_citingValue {members entries : List (String × Json)}
    (same : (Json.object members).sorted = (Json.object entries).sorted) :
    (citingValue members).sorted = (citingValue entries).sorted := by
  rw [Json.sorted_object, Json.sorted_object] at same
  simp only [citingValue, Json.sorted_object, Json.sorted_array, List.map_cons, List.map_nil,
    Json.sortedMember, same]

/-- To put a space in the place of a footnote; there is no proper answer to an empty block. -/
def footnoteAnswer : NodeKind → Answer Unit Node
  | .note => .replace ⟨.space, .nothing⟩
  | .null => .other ()
  | _ => .decline

def replaceFootnotes (_ : List Node) (node : Node) : Answer Unit Node :=
  footnoteAnswer node.kind

theorem exists_citing : ∃ document,
    decode (.characters (citingValue footnoteMembers).write) = .ok document ∧
      (due replaceFootnotes [] 0 document.nodes).map Node.kind = [.para, .cite, .note, .space] := by
  apply exists_of_toOption_decode
  decide +kernel

/-- The empty block stands in the footnote, so the walk does not fail, in whatever order the members
of the citation are given. -/
theorem walk_offers_in_written_order_citing :
    ((Input.characters (citingValue footnoteMembers).write).Parses (citingValue footnoteMembers) ∧
      (Input.characters (citingValue footnoteMembers.reverse).write).Parses
        (citingValue footnoteMembers.reverse) ∧
      (citingValue footnoteMembers).sorted = (citingValue footnoteMembers.reverse).sorted) ∧
    ∃ document again, decode (.characters (citingValue footnoteMembers).write) = .ok document ∧
      decode (.characters (citingValue footnoteMembers.reverse).write) = .ok again ∧
      again.nodes = document.nodes ∧
      account (again.walk (recording replaceFootnotes)) =
        (.ok (), due replaceFootnotes [] 0 document.nodes) ∧
      (due replaceFootnotes [] 0 document.nodes).map Node.kind = [.para, .cite, .note, .space] := by
  have given : (Input.characters (citingValue footnoteMembers).write).Spells
      (citingValue footnoteMembers) :=
    Json.spells_write (by decide) (by decide) (by decide)
  have turned : (Input.characters (citingValue footnoteMembers.reverse).write).Spells
      (citingValue footnoteMembers.reverse) :=
    Json.spells_write (by decide) (by decide) (by decide)
  have same : (citingValue footnoteMembers).sorted = (citingValue footnoteMembers.reverse).sorted :=
    sorted_citingValue (Json.sorted_perm (by decide) (List.reverse_perm _).symm)
  rcases exists_citing with ⟨document, decoded, kinds⟩
  rcases (walk_offers_in_written_order replaceFootnotes).2.2 given.parses turned.parses same decoded
    with ⟨again, decodedAgain, nodes⟩
  have dueAgain := ((walk_offers_in_written_order replaceFootnotes).2.1 again).2.2.2
  rw [nodes] at dueAgain
  refine ⟨⟨given.parses, turned.parses, same⟩, document, again, decoded, decodedAgain, nodes,
    dueAgain.succeeds ?_, kinds⟩
  intro before node after split
  have mem : node.kind ∈ (due replaceFootnotes [] 0 document.nodes).map Node.kind := by
    rw [split, List.map_append, List.map_cons]
    exact List.mem_append_right _ (List.mem_cons_self ..)
  rw [kinds] at mem
  have proper : ∀ kind ∈ [NodeKind.para, .cite, .note, .space],
      (footnoteAnswer kind).isProper = true := by
    decide
  exact proper node.kind mem

end DocHighlight.Document
