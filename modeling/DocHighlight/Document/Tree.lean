import DocHighlight.Document.Schema
import DocHighlight.Json.Value

/-!
# Document trees

Trees indexed by their shape: the payload of a node has the shape that its kind declares. A place
for a node can hold a node of any kind; in a tree that was read each node belongs to its place, but
a transformation may put any node anywhere. Beside the trees stands their JSON form: a node is an
object with its kind and, if there is one, its payload; lists and tuples are arrays.
-/

namespace DocHighlight.Document

/-- The attributes of an element: identifier, classes, and key-value pairs. -/
structure Attributes where
  identifier : String
  classes : List String
  pairs : List (String × String)
deriving DecidableEq, Repr

/-- The width of a table column: the default, or a number that is kept as it was given. -/
inductive ColumnWidth where
  | standard
  | integer (value : Int)
  | float (value : Binary64)
deriving DecidableEq, Repr

structure Tag (vocabulary : Vocabulary) where
  name : String
  known : name ∈ vocabulary.names
deriving DecidableEq, Repr

/-- A tree of a given shape. Lists are chains of `nil` and `cons`, tuples of `done` and `field`. -/
inductive Tree : Shape → Type where
  | text (value : String) : Tree .text
  | integer (value : Int) : Tree .integer
  | attributes (value : Attributes) : Tree .attributes
  | width (value : ColumnWidth) : Tree .width
  | tag {vocabulary : Vocabulary} (value : Tag vocabulary) : Tree (.tag vocabulary)
  | nothing : Tree .nothing
  | node {place : Place} (kind : NodeKind) (payload : Tree kind.payload) : Tree (.node place)
  | citation (fields : Tree (.tuple (citationFields.map CitationField.shape))) : Tree .citation
  | nil {element : Shape} : Tree (.list element)
  | cons {element : Shape} (first : Tree element) (others : Tree (.list element)) :
      Tree (.list element)
  | absent {content : Shape} : Tree (.optional content)
  | present {content : Shape} (value : Tree content) : Tree (.optional content)
  | done : Tree (.tuple [])
  | field {first : Shape} {others : List Shape} (value : Tree first) (more : Tree (.tuple others)) :
      Tree (.tuple (first :: others))

/-- What stands where a block is due. -/
abbrev Block : Type :=
  Tree (.node .block)

/-- A node apart from its place. -/
structure Node where
  kind : NodeKind
  payload : Tree kind.payload

/-- The node that stands in a place. -/
def Tree.root {place : Place} : Tree (.node place) → Node
  | .node kind payload => ⟨kind, payload⟩

/-- A node, put into a place. -/
def Node.put (node : Node) (place : Place) : Tree (.node place) :=
  .node node.kind node.payload

@[simp]
theorem Tree.root_node {place : Place} (kind : NodeKind) (payload : Tree kind.payload) :
    (@Tree.node place kind payload).root = ⟨kind, payload⟩ :=
  rfl

@[match_pattern]
abbrev Node.code (attributes : Attributes) (text : String) : Node :=
  ⟨.codeBlock, .field (.attributes attributes) (.field (.text text) .done)⟩

/-- A block in the markup of a given format, which is passed on as it is. -/
@[match_pattern]
abbrev Node.raw (format text : String) : Node :=
  ⟨.rawBlock, .field (.text format) (.field (.text text) .done)⟩

@[match_pattern]
abbrev Node.str (text : String) : Node :=
  ⟨.str, .text text⟩

/-- Attributes are written as an array of three. -/
def Attributes.toJson (attributes : Attributes) : Json :=
  .array [.string attributes.identifier, .array (attributes.classes.map .string),
    .array (attributes.pairs.map fun pair => .array [.string pair.1, .string pair.2])]

/-- A tag is written as an object. -/
def Tag.toJson {vocabulary : Vocabulary} (tag : Tag vocabulary) : Json :=
  .object [("t", .string tag.name)]

/-- A column width is written like a node. -/
def ColumnWidth.toJson : ColumnWidth → Json
  | .standard => .object [("t", .string "ColWidthDefault")]
  | .integer value => .object [("t", .string "ColWidth"), ("c", .integer value)]
  | .float value => .object [("t", .string "ColWidth"), ("c", .float value)]

/-- A node is written with its name, and with its payload unless its kind has none. -/
def nodeToJson (name : String) (shape : Shape) (payload : Json) : Json :=
  match shape with
  | .nothing => .object [("t", .string name)]
  | _ => .object [("t", .string name), ("c", payload)]

def citationNames : List String :=
  citationFields.map fun field => field.label.name

namespace Tree

mutual
/-- The JSON form of a tree. -/
def toJson {shape : Shape} : Tree shape → Json
  | .text value => .string value
  | .integer value => .integer value
  | .attributes value => value.toJson
  | .width value => value.toJson
  | .tag value => value.toJson
  | .nothing => .null
  | .node kind payload => nodeToJson kind.name kind.payload payload.toJson
  | .citation fields => .object (citationNames.zip fields.items)
  | .nil => .array []
  | .cons first others => .array (first.toJson :: others.items)
  | .absent => .null
  | .present value => value.toJson
  | .done => .array []
  | .field value more => .array (value.toJson :: more.items)

/-- The JSON forms of the elements of a list or the members of a tuple. -/
def items {shape : Shape} : Tree shape → List Json
  | .cons first others => first.toJson :: others.items
  | .field value more => value.toJson :: more.items
  | _ => []
end

/-- Whether each node of a tree belongs to its place. -/
def wellPlaced {shape : Shape} : Tree shape → Bool
  | @node place kind payload => kind.fits place && payload.wellPlaced
  | .citation fields => fields.wellPlaced
  | .cons first others => first.wellPlaced && others.wellPlaced
  | .present value => value.wellPlaced
  | .field value more => value.wellPlaced && more.wellPlaced
  | .text _ | .integer _ | .attributes _ | .width _ | .tag _ | .nothing | .nil | .absent | .done =>
      true

end Tree

def Node.toJson (node : Node) : Json :=
  nodeToJson node.kind.name node.kind.payload node.payload.toJson

@[simp]
theorem Tree.toJson_root {place : Place} (tree : Tree (.node place)) :
    tree.root.toJson = tree.toJson := by
  cases tree
  simp only [Tree.root_node, Node.toJson, Tree.toJson]

end DocHighlight.Document

namespace DocHighlight

open Document

/-- A document: the version of its format, metadata that nothing looks into, and its blocks. -/
structure Document where
  version : List Int
  metadata : List (String × Json)
  blocks : List Block

def Document.toJson (document : Document) : Json :=
  .object [("pandoc-api-version", .array (document.version.map .integer)),
    ("meta", .object document.metadata), ("blocks", .array (document.blocks.map Tree.toJson))]

end DocHighlight
