import DocHighlight.Document.Reading
import DocHighlight.Json.Reader
import DocHighlight.Json.Writer
import DocHighlight.Text.Utf8

/-!
# Documents as text

Decoding goes from bytes to characters, from characters to a JSON value, and from that to a
document; the first of the three that fails gives the error. Encoding writes the JSON form of a
document without white space. A tree whose values stand too deep in one another is not written at
all; no text is deep enough to be read as such a tree, but a replacement may make one.
-/

namespace DocHighlight

open Document

/-- Why an input is no document: its bytes are no text, its text is no JSON, or its value is no
document. -/
inductive MalformedInput where
  | bytes (cause : Text.Utf8.Malformed)
  | text (fault : Json.SyntaxFault)
  | content (first : Problem) (others : List Problem)

def MalformedInput.message : MalformedInput → String
  | .bytes cause => "Input is not valid UTF-8: " ++ cause.message
  | .text fault => "Input is not a pandoc JSON document (1 error(s)): " ++ fault.message
  | .content first others =>
      "Input is not a pandoc JSON document (" ++ toString (others.length + 1) ++ " error(s)): " ++
        first.message

/-- What is handed in: bytes, or characters. -/
inductive Input where
  | bytes (bytes : List UInt8)
  | characters (text : List Char)

namespace Document

/-- The document that a text spells. -/
def decodeText (text : List Char) : Except MalformedInput Document :=
  match Json.parse text with
  | .error fault => .error (.text fault)
  | .ok value =>
      match Document.ofJson value with
      | .valid document => .ok document
      | .invalid first others => .error (.content first others)

/-- The document that bytes spell in UTF-8. -/
def decodeBytes (bytes : List UInt8) : Except MalformedInput Document :=
  match Text.Utf8.decode bytes with
  | .ok text => decodeText text
  | .error cause => .error (.bytes cause)

/-- The document that an input spells. -/
def decode : Input → Except MalformedInput Document
  | .bytes bytes => decodeBytes bytes
  | .characters text => decodeText text

def encodeText (document : Document) : List Char :=
  document.toJson.write

/-- The text of a document in UTF-8. -/
def encode (document : Document) : List UInt8 :=
  Text.Utf8.encode document.encodeText

/-- Why something is not written. -/
inductive Unwritable where
  | tooDeep
deriving DecidableEq, Repr

def Unwritable.message : Unwritable → String
  | .tooDeep => "Error serializing to JSON: ValueError: Maximum serialization depth exceeded"

/-- How many levels may be open at once while something is written. -/
def levelLimit : Nat :=
  255

/-- How many levels are open at once while the nodes in a tree are written. A node that belongs to
its place is written as one value, all of whose levels count. A node out of place is written part by
part: it counts for two levels, and of its parts only the nodes count. -/
def Tree.levels {shape : Shape} : Tree shape → Nat
  | @Tree.node place kind payload =>
      if kind.fits place then (@Tree.node place kind payload).toJson.height
      else payload.levels + 2
  | .citation fields => fields.levels
  | .cons first others => max first.levels others.levels
  | .present value => value.levels
  | .field value more => max value.levels more.levels
  | .text _ | .integer _ | .attributes _ | .width _ | .tag _ | .nothing | .nil | .absent | .done =>
      0

/-- The text of a node by itself, if it is not too deep. The node is written part by part: it counts
for one level, and of its parts only the nodes count. -/
def Node.encodeText? (node : Node) : Except Unwritable (List Char) :=
  if node.payload.levels + 1 ≤ levelLimit then .ok node.toJson.write else .error .tooDeep

/-- The text of a document, if none of its blocks and none of its metadata is too deep. -/
def encodeText? (document : Document) : Except Unwritable (List Char) :=
  if document.metadata.all (fun member => member.2.height ≤ levelLimit) &&
      document.blocks.all (fun block => block.levels ≤ levelLimit) then
    .ok document.encodeText
  else .error .tooDeep

end Document

end DocHighlight
