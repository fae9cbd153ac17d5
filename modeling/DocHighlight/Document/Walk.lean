import DocHighlight.Document.Tree
import DocHighlight.Json.Literal

/-!
# Transforming document trees

A walk offers every node of a tree to a transformer, parents before children and in the order in
which they are written. A node that is replaced, by whatever node, is not looked into; a node that
is declined is put together again from its walked children. The result of a walk tells a tree that
was not touched from one that was: a tree is left the same exactly if nothing new was put into it.

The transformer may have effects. An answer that is neither a replacement nor a refusal ends the
walk.
-/

namespace DocHighlight.Document

/-- What a transformer says about a node: to leave it and look into it, to leave it as it is with
all that is in it, to put in another node, or something else. -/
inductive Answer (Other α : Type) where
  | decline
  | keep
  | replace (node : α)
  | other (value : Other)

/-- The report of an answer that is something else. -/
def improperAnswer (value : Json) : String :=
  "Transformer must return Replace or Decline, got " ++ String.ofList value.literal

abbrev Transformer (Other : Type) (m : Type → Type) : Type :=
  Node → m (Answer Other Node)

/-- The outcome of a walk: the same as before, or something put together afresh. -/
inductive Rebuilt (α : Type) where
  | same
  | fresh (value : α)

namespace Rebuilt

/-- The outcome as a value, given what it was before. -/
def value {α : Type} (before : α) : Rebuilt α → α
  | .same => before
  | .fresh value => value

/-- Whether nothing was put in. -/
def isSame {α : Type} : Rebuilt α → Bool
  | .same => true
  | .fresh _ => false

/-- The outcome for a tree that holds the walked one. -/
def map {α β : Type} (f : α → β) : Rebuilt α → Rebuilt β
  | .same => .same
  | .fresh value => .fresh (f value)

/-- The outcome for a tree that holds two walked ones: the same if both are. -/
def both {α β γ : Type} (f : α → β → γ) (a : α) (b : β) : Rebuilt α → Rebuilt β → Rebuilt γ
  | .same, .same => .same
  | first, second => .fresh (f (first.value a) (second.value b))

section Laws

variable {α β γ : Type}

@[simp]
theorem value_map (f : α → β) (before : α) (outcome : Rebuilt α) :
    (outcome.map f).value (f before) = f (outcome.value before) := by
  cases outcome <;> rfl

@[simp]
theorem isSame_map (f : α → β) (outcome : Rebuilt α) :
    (outcome.map f).isSame = outcome.isSame := by
  cases outcome <;> rfl

@[simp]
theorem value_both (f : α → β → γ) (a : α) (b : β) (first : Rebuilt α) (second : Rebuilt β) :
    (both f a b first second).value (f a b) = f (first.value a) (second.value b) := by
  cases first <;> cases second <;> rfl

@[simp]
theorem isSame_both (f : α → β → γ) (a : α) (b : β) (first : Rebuilt α) (second : Rebuilt β) :
    (both f a b first second).isSame = (first.isSame && second.isSame) := by
  cases first <;> cases second <;> rfl

end Laws

end Rebuilt

section Walk

variable {Other : Type} {m : Type → Type} [Monad m]

def Tree.walk (transformer : Transformer Other m) {shape : Shape} :
    Tree shape → ExceptT Other m (Rebuilt (Tree shape))
  | @Tree.node place kind payload => do
      match ← transformer ⟨kind, payload⟩ with
      | .decline => return (← payload.walk transformer).map (.node kind)
      | .keep => return .same
      | .replace chosen => return .fresh (chosen.put place)
      | .other value => throw value
  | .citation fields => return (← fields.walk transformer).map .citation
  | .cons first others =>
      return .both .cons first others (← first.walk transformer) (← others.walk transformer)
  | .present value => return (← value.walk transformer).map .present
  | .field value more =>
      return .both .field value more (← value.walk transformer) (← more.walk transformer)
  | .text _ | .integer _ | .attributes _ | .width _ | .tag _ | .nothing | .nil | .absent | .done =>
      return .same

/-- Walks a node by itself; which place it is put into has no influence. -/
def Node.walk (transformer : Transformer Other m) (node : Node) : ExceptT Other m (Rebuilt Node) :=
  return (← (node.put .block).walk transformer).map Tree.root

def walkBlocks (transformer : Transformer Other m) :
    List Block → ExceptT Other m (List (Rebuilt Block))
  | [] => return []
  | block :: others => return (← block.walk transformer) :: (← walkBlocks transformer others)

end Walk

/-- The outcome for a list from those for its elements: the same if all are. -/
def Rebuilt.list {α : Type} : List α → List (Rebuilt α) → Rebuilt (List α)
  | before :: others, outcome :: outcomes =>
      .both .cons before others outcome (list others outcomes)
  | _, _ => .same

/-- The outcome for a document from those for its blocks. -/
def rebuild (document : Document) (outcomes : List (Rebuilt Block)) : Rebuilt Document :=
  (Rebuilt.list document.blocks outcomes).map fun blocks => { document with blocks }

end DocHighlight.Document

namespace DocHighlight

open Document

/-- Walks the blocks of a document; version and metadata stay as they are. -/
def Document.walk {Other : Type} {m : Type → Type} [Monad m] (transformer : Transformer Other m)
    (document : Document) : ExceptT Other m (Rebuilt Document) :=
  return rebuild document (← walkBlocks transformer document.blocks)

end DocHighlight
