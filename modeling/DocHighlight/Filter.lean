import DocHighlight.CodeBlocks
import DocHighlight.Document.Codec

/-!
# The filter

Decodes a document, highlights its code blocks, and hands the result on to be encoded. An input that
is no document is refused before anything else happens.
-/

namespace DocHighlight

/-- Reads a document; it is reported. -/
def Document.receive (input : Input) : ExceptT MalformedInput Logged Document := do
  match decode input with
  | .error problem => throw problem
  | .ok document =>
      Logged.report (.decoded document.blocks.length document.version)
      return document

/-- The document of an input with its code blocks highlighted. The format that the caller writes in
has no influence: code always becomes HTML. -/
def filter (highlighter : Highlighter) (_format : String) (input : Input) :
    ExceptT MalformedInput Logged Document := do
  let document ← Document.receive input
  let outcome ← (document.highlight highlighter : Logged _)
  return outcome.value document

end DocHighlight
