import DocHighlight.Document.Walk

/-!
# The walk and the plain rewrite

A plain rewrite puts every declined node together again from its rewritten children and puts every
replacement in as it is; beside the tree it gives the nodes for which another one was put in. The
walk gives the same tree with the same effects, and what it says about its outcome is right: a tree
is the same exactly if no node in it was replaced by another one. This holds of every block of a
document by itself.

The induction is on the tree. Both sides are seen through what they tell of their result: the tree,
and whether it is the same.
-/

namespace DocHighlight.Document

/-- What a plain rewrite gives: a value, and the nodes in it for which another one was put in. -/
structure Plain (α : Type) where
  value : α
  replaced : List Node

namespace Plain

variable {α β γ : Type}

def map (f : α → β) (plain : Plain α) : Plain β :=
  ⟨f plain.value, plain.replaced⟩

def both (f : α → β → γ) (first : Plain α) (second : Plain β) : Plain γ :=
  ⟨f first.value second.value, first.replaced ++ second.replaced⟩

/-- The value, and whether no other node was put in. -/
def view (plain : Plain α) : α × Bool :=
  (plain.value, plain.replaced.isEmpty)

end Plain

/-- The value that an outcome gives, and whether it is the same as before. -/
def Rebuilt.view {α : Type} (before : α) (outcome : Rebuilt α) : α × Bool :=
  (outcome.value before, outcome.isSame)

section View

variable {α β γ : Type}

theorem view_map (f : α → β) (before : α) (outcome : Rebuilt α) :
    (outcome.map f).view (f before) = (outcome.view before).map f id := by
  rw [Rebuilt.view, Rebuilt.value_map, Rebuilt.isSame_map]
  rfl

theorem view_plain_map (f : α → β) (plain : Plain α) :
    (plain.map f).view = plain.view.map f id :=
  rfl

/-- What a tree tells from what the two trees in it tell. -/
def viewBoth (f : α → β → γ) (first : α × Bool) (second : β × Bool) : γ × Bool :=
  (f first.1 second.1, first.2 && second.2)

theorem view_both (f : α → β → γ) (a : α) (b : β) (first : Rebuilt α) (second : Rebuilt β) :
    (Rebuilt.both f a b first second).view (f a b) = viewBoth f (first.view a) (second.view b) := by
  rw [Rebuilt.view, Rebuilt.value_both, Rebuilt.isSame_both]
  rfl

theorem isEmpty_append (first second : List α) :
    (first ++ second).isEmpty = (first.isEmpty && second.isEmpty) := by
  cases first <;> rfl

theorem view_plain_both (f : α → β → γ) (first : Plain α) (second : Plain β) :
    (Plain.both f first second).view = viewBoth f first.view second.view := by
  rw [Plain.view, Plain.both, isEmpty_append]
  rfl

end View

section Rewrite

variable {Other : Type} {m : Type → Type} [Monad m]

/-- The plain rewrite of a tree. -/
def Tree.rewrite (transformer : Transformer Other m) {shape : Shape} :
    Tree shape → ExceptT Other m (Plain (Tree shape))
  | @Tree.node place kind payload => do
      match ← transformer ⟨kind, payload⟩ with
      | .decline => return (← payload.rewrite transformer).map (.node kind)
      | .keep => return ⟨.node kind payload, []⟩
      | .replace chosen => return ⟨chosen.put place, [⟨kind, payload⟩]⟩
      | .other value => throw value
  | .citation fields => return (← fields.rewrite transformer).map .citation
  | .cons first others =>
      return .both .cons (← first.rewrite transformer) (← others.rewrite transformer)
  | .present value => return (← value.rewrite transformer).map .present
  | .field value more =>
      return .both .field (← value.rewrite transformer) (← more.rewrite transformer)
  | tree@(.text _) | tree@(.integer _) | tree@(.attributes _) | tree@(.width _) | tree@(.tag _)
  | tree@.nothing | tree@.nil | tree@.absent | tree@.done =>
      return ⟨tree, []⟩

def Node.rewrite (transformer : Transformer Other m) (node : Node) :
    ExceptT Other m (Plain Node) :=
  return (← (node.put .block).rewrite transformer).map Tree.root

end Rewrite

section Agreement

variable {Other : Type} {m : Type → Type} [Monad m] [LawfulMonad m]

section Steps

variable {M : Type → Type} [Monad M] [LawfulMonad M] {α β γ δ ε ζ η : Type}

/-- Two runs that tell the same can be followed by the same. -/
theorem bind_congr_view {walked : M α} {rewritten : M β} {view : α → γ} {view' : β → γ}
    (same : view <$> walked = view' <$> rewritten) (next : γ → M δ) :
    (walked >>= fun outcome => next (view outcome)) =
      rewritten >>= fun plain => next (view' plain) := by
  calc (walked >>= fun outcome => next (view outcome))
    _ = (view <$> walked) >>= next := (bind_map_left ..).symm
    _ = (view' <$> rewritten) >>= next := by rw [same]
    _ = rewritten >>= fun plain => next (view' plain) := bind_map_left ..

theorem bind_congr_views {walked : M α} {rewritten : M β} {view : α → γ} {view' : β → γ}
    {walkedMore : M δ} {rewrittenMore : M ε} {viewMore : δ → ζ} {viewMore' : ε → ζ}
    (same : view <$> walked = view' <$> rewritten)
    (sameMore : viewMore <$> walkedMore = viewMore' <$> rewrittenMore) (next : γ → ζ → M η) :
    (walked >>= fun first => walkedMore >>= fun second => next (view first) (viewMore second)) =
      rewritten >>= fun first => rewrittenMore >>= fun second =>
        next (view' first) (viewMore' second) := by
  calc (walked >>= fun first => walkedMore >>= fun second => next (view first) (viewMore second))
    _ = rewritten >>= fun first => walkedMore >>= fun second =>
          next (view' first) (viewMore second) :=
        bind_congr_view same fun told => walkedMore >>= fun second => next told (viewMore second)
    _ = rewritten >>= fun first => rewrittenMore >>= fun second =>
          next (view' first) (viewMore' second) :=
        bind_congr fun first => bind_congr_view sameMore (next (view' first))

end Steps

/-- The walk of a tree tells what its plain rewrite tells. -/
theorem Tree.view_walk (transformer : Transformer Other m) {shape : Shape} (tree : Tree shape) :
    Rebuilt.view tree <$> tree.walk transformer = Plain.view <$> tree.rewrite transformer := by
  induction tree with
  | text | integer | attributes | width | tag | nothing | nil | absent | done =>
      rw [Tree.walk, Tree.rewrite, map_pure, map_pure]
      rfl
  | @node place kind payload ih =>
      rw [Tree.walk, Tree.rewrite, map_bind, map_bind]
      apply bind_congr
      intro answer
      cases answer with
      | decline =>
          simp only [map_bind, map_pure, view_map, view_plain_map]
          exact bind_congr_view ih fun told => pure (told.map _ id)
      | keep | replace chosen => simp only [map_pure]; rfl
      | other value => simp
  | citation fields ih | present value ih =>
      simp only [Tree.walk, Tree.rewrite, map_bind, map_pure, view_map, view_plain_map]
      exact bind_congr_view ih fun told => pure (told.map _ id)
  | cons first others ihFirst ihOthers | field first others ihFirst ihOthers =>
      simp only [Tree.walk, Tree.rewrite, map_bind, map_pure, view_both, view_plain_both]
      exact bind_congr_views ihFirst ihOthers fun told toldMore =>
        pure (viewBoth _ told toldMore)

theorem Node.view_walk (transformer : Transformer Other m) (node : Node) :
    Rebuilt.view node <$> node.walk transformer = Plain.view <$> node.rewrite transformer := by
  have seen : ∀ outcome : Rebuilt Block, Rebuilt.view node (outcome.map Tree.root) =
      (outcome.view (node.put .block)).map Tree.root id := view_map Tree.root (node.put .block)
  simp only [Node.walk, Node.rewrite, map_bind, map_pure, seen, view_plain_map]
  exact bind_congr_view (Tree.view_walk transformer _) fun told => pure (told.map _ id)

/-- What the blocks of a document tell one by one, and what their list tells. -/
def viewBlocks (blocks : List Block) (outcomes : List (Rebuilt Block)) :
    List (Block × Bool) × List Block × Bool :=
  (List.zipWith Rebuilt.view blocks outcomes, (Rebuilt.list blocks outcomes).view blocks)

def viewPlainBlocks (plains : List (Plain Block)) : List (Block × Bool) × List Block × Bool :=
  (plains.map Plain.view, plains.map Plain.value, (plains.flatMap Plain.replaced).isEmpty)

/-- What is told when one more block stands in front. -/
def viewCons (first : Block × Bool) (others : List (Block × Bool) × List Block × Bool) :
    List (Block × Bool) × List Block × Bool :=
  (first :: others.1, viewBoth .cons first others.2)

theorem viewBlocks_cons (block : Block) (blocks : List Block) (outcome : Rebuilt Block)
    (outcomes : List (Rebuilt Block)) :
    viewBlocks (block :: blocks) (outcome :: outcomes) =
      viewCons (outcome.view block) (viewBlocks blocks outcomes) := by
  rw [viewBlocks, Rebuilt.list, view_both]
  rfl

theorem viewPlainBlocks_cons (plain : Plain Block) (plains : List (Plain Block)) :
    viewPlainBlocks (plain :: plains) = viewCons plain.view (viewPlainBlocks plains) := by
  rw [viewPlainBlocks, List.flatMap_cons, isEmpty_append]
  rfl

theorem viewBlocks_walk (transformer : Transformer Other m) (blocks : List Block) :
    viewBlocks blocks <$> walkBlocks transformer blocks =
      viewPlainBlocks <$> blocks.mapM (Tree.rewrite transformer) := by
  induction blocks with
  | nil =>
      rw [walkBlocks, List.mapM_nil, map_pure, map_pure]
      rfl
  | cons block blocks ih =>
      simp only [walkBlocks, List.mapM_cons, map_bind, map_pure, viewBlocks_cons,
        viewPlainBlocks_cons]
      exact bind_congr_views (Tree.view_walk transformer block) ih fun told toldMore =>
        pure (viewCons told toldMore)

/-- For nodes and for documents the walk gives what the plain rewrite gives, and it tells that a
node, a block or a document is the same exactly if no other node was put in for one in it. -/
theorem walk_eq_rewrite (transformer : Transformer Other m) :
    (∀ node : Node,
      (fun outcome => (outcome.value node, outcome.isSame)) <$> node.walk transformer =
        (fun plain => (plain.value, plain.replaced.isEmpty)) <$> node.rewrite transformer) ∧
    ∀ document : Document,
      document.walk transformer = rebuild document <$> walkBlocks transformer document.blocks ∧
      (fun outcomes =>
          (List.zipWith (fun block outcome => (outcome.value block, outcome.isSame))
            document.blocks outcomes,
          (rebuild document outcomes).value document, (rebuild document outcomes).isSame)) <$>
          walkBlocks transformer document.blocks =
        (fun plains =>
          (plains.map fun plain => (plain.value, plain.replaced.isEmpty),
          { document with blocks := plains.map Plain.value },
          (plains.flatMap Plain.replaced).isEmpty)) <$>
          document.blocks.mapM (Tree.rewrite transformer) := by
  refine ⟨Node.view_walk transformer, fun document => ⟨?_, ?_⟩⟩
  · rw [Document.walk, ← bind_pure_comp]
  · have ofBlocks := congrArg
      (fun run => (fun told : List (Block × Bool) × List Block × Bool =>
        (told.1, { document with blocks := told.2.1 }, told.2.2)) <$> run)
      (viewBlocks_walk transformer document.blocks)
    simp only [Functor.map_map] at ofBlocks
    have rebuilt : ∀ outcomes,
        ((rebuild document outcomes).value document, (rebuild document outcomes).isSame) =
          ((Rebuilt.list document.blocks outcomes).view document.blocks).map
            (fun blocks => { document with blocks }) id := by
      intro outcomes
      exact view_map (fun blocks => { document with blocks }) document.blocks _
    simp only [rebuilt]
    exact ofBlocks

end Agreement

/-- Numbers words, but leaves the first as it is. -/
def numberWords : Transformer Empty (StateM Nat)
  | .str _ => do
      let count ← get
      set (count + 1)
      return if count = 0 then .keep else .replace (.str (toString count))
  | _ => return .decline

/-- A paragraph of a word, and the same word in emphasis. -/
def wordsNode : Node :=
  ⟨.para, .cons (Node.put (.str "word") .inline)
    (.cons (.node .emph (.cons (Node.put (.str "word") .inline) .nil)) .nil)⟩

/-- A document of a rule and this paragraph. -/
def wordsDocument : Document :=
  ⟨[1, 23], [], [.node .horizontalRule .nothing, wordsNode.put .block]⟩

theorem walk_eq_rewrite_words :
    (fun outcome => (outcome.value wordsNode, outcome.isSame)) <$> wordsNode.walk numberWords =
      (fun plain => (plain.value, plain.replaced.isEmpty)) <$> wordsNode.rewrite numberWords ∧
    wordsDocument.walk numberWords =
      rebuild wordsDocument <$> walkBlocks numberWords wordsDocument.blocks ∧
    (List.map Rebuilt.isSame <$> walkBlocks numberWords wordsDocument.blocks).run.run 0 =
      (.ok [true, false], 2) :=
  ⟨(walk_eq_rewrite numberWords).1 wordsNode,
    ((walk_eq_rewrite numberWords).2 wordsDocument).1, rfl⟩

end DocHighlight.Document
