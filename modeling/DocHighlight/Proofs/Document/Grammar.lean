import DocHighlight.Proofs.Document.Reading

/-!
# The grammar of documents

Which JSON values are documents, apart from any reader of them. A grammar has two forms. In the
documented form a node is an object with its kind and, if its kind has one, its payload; attributes
are an array of three; a citation has its six fields and a document its three, each under its
preferred name. In the accepted form a field may also go by its other name, and attributes may be an
object of which any part is missing.

The members of an object may come in any order. The members of a written document come in a fixed
one, but for those of its metadata, which keep their order.
-/

namespace DocHighlight.Document

/-- The two forms of the grammar. -/
inductive Form where
  | documented
  | accepted
deriving DecidableEq, Repr

/-- Whether a field may go by a name. -/
def Form.Allows (form : Form) (label : FieldName) (name : String) : Prop :=
  name = label.name ∨ form = .accepted ∧ name = label.otherName

/-- A part of attributes that are given as an object. -/
inductive AttributeMember : String × Json → Prop where
  | identifier (text : String) : AttributeMember ("identifier", .string text)
  | classes (texts : List String) : AttributeMember ("classes", textsToJson texts)
  | pairs (pairs : List (String × String)) : AttributeMember ("attributes", pairsToJson pairs)

/-- The JSON values that conform to a shape. -/
inductive Conforms (form : Form) : Shape → Json → Prop where
  | text (value : String) : Conforms form .text (.string value)
  | integer (value : Int) : Conforms form .integer (.integer value)
  | attributes (identifier : String) (classes : List String) (pairs : List (String × String)) :
      Conforms form .attributes
        (.array [.string identifier, textsToJson classes, pairsToJson pairs])
  | attributesObject {members : List (String × Json)} (lenient : form = .accepted)
      (each : ∀ member ∈ members, AttributeMember member) :
      Conforms form .attributes (.object members)
  | defaultWidth : Conforms form .width (.object [("t", .string "ColWidthDefault")])
  | integerWidth {members : List (String × Json)} {value : Int}
      (perm : members.Perm [("t", .string "ColWidth"), ("c", .integer value)]) :
      Conforms form .width (.object members)
  | floatWidth {members : List (String × Json)} {value : Binary64}
      (perm : members.Perm [("t", .string "ColWidth"), ("c", .float value)]) :
      Conforms form .width (.object members)
  | tag {vocabulary : Vocabulary} {name : String} (known : name ∈ vocabulary.names) :
      Conforms form (.tag vocabulary) (.object [("t", .string name)])
  | bareNode {place : Place} {kind : NodeKind} (fits : kind ∈ place.kinds)
      (bare : kind.payload = .nothing) :
      Conforms form (.node place) (.object [("t", .string kind.name)])
  | node {place : Place} {kind : NodeKind} {members : List (String × Json)} {payload : Json}
      (fits : kind ∈ place.kinds) (notBare : kind.payload ≠ .nothing)
      (perm : members.Perm [("t", .string kind.name), ("c", payload)])
      (inner : Conforms form kind.payload payload) : Conforms form (.node place) (.object members)
  | citation {naming : FieldName → String} {members : List (String × Json)} {values : List Json}
      (names : ∀ label ∈ citationLabels, form.Allows label (naming label))
      (perm : members.Perm ((citationLabels.map naming).zip values))
      (inner : Conforms form (.tuple (citationFields.map CitationField.shape)) (.array values)) :
      Conforms form .citation (.object members)
  | list {element : Shape} {values : List Json}
      (each : ∀ value ∈ values, Conforms form element value) :
      Conforms form (.list element) (.array values)
  | absent {content : Shape} : Conforms form (.optional content) .null
  | present {content : Shape} {value : Json} (notNull : value ≠ .null)
      (inner : Conforms form content value) : Conforms form (.optional content) value
  | done : Conforms form (.tuple []) (.array [])
  | field {shape : Shape} {shapes : List Shape} {value : Json} {values : List Json}
      (head : Conforms form shape value) (tail : Conforms form (.tuple shapes) (.array values)) :
      Conforms form (.tuple (shape :: shapes)) (.array (value :: values))

/-- The JSON values that are documents. -/
inductive ConformsDocument (form : Form) : Json → Prop where
  | mk {naming : FieldName → String} {members : List (String × Json)} {version : List Int}
      {metadata : List (String × Json)} {blocks : List Json}
      (names : ∀ label ∈ documentLabels, form.Allows label (naming label))
      (perm : members.Perm [(naming versionField, .array (version.map .integer)),
        (naming metadataField, .object metadata), (naming blocksField, .array blocks)])
      (each : ∀ block ∈ blocks, Conforms form (.node .block) block) :
      ConformsDocument form (.object members)

/-- The members that have one of the given keys, in the order of these. -/
def inOrder (order : List String) (members : List (String × Json)) : List (String × Json) :=
  order.filterMap fun key => (Keyed.get? members key).map (key, ·)

/-- The order in which the members of nodes, tags, column widths and citations are written. -/
def writtenOrder : List String :=
  ["t", "c"] ++ citationNames

/-- A part of a document with all members in the order in which they are written. -/
def arrange (value : Json) : Json :=
  value.mapObjects fun members => .object (inOrder writtenOrder members)

/-- A document with all members in the order in which they are written. The metadata stays as it is.
-/
def arrangeDocument : Json → Json
  | .object members =>
      .object ((inOrder ["pandoc-api-version", "meta", "blocks"] members).map fun member =>
        if member.1 = "blocks" then (member.1, arrange member.2) else member)
  | value => value

end DocHighlight.Document
