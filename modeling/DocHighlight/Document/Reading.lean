import DocHighlight.Document.Problem
import DocHighlight.Document.Tree
import DocHighlight.Keyed

/-!
# Reading documents from JSON

What a JSON value means as a part of a document. Records are strict: every field must be there, and
no key may be there that is not a field. A field of a citation or of the document has two names, of
which the first one is preferred; attributes may also be given as an object. All problems are
collected.

The recursion follows the JSON value. Each part of it becomes a function from shapes to checked
trees, and the parts of an array or object are put together by their shapes.
-/

namespace DocHighlight.Document

def readText : Json → Checked String
  | .string value => .valid value
  | _ => .problem .notText

def readInteger : Json → Checked Int
  | .integer value => .valid value
  | _ => .problem .notInteger

/-- All elements of a list, each read in its turn. -/
def readAll {α : Type} (read : Json → Checked α) : List Json → Checked (List α)
  | [] => .valid []
  | element :: others => .both List.cons (read element) (readAll read others)

/-- An array of any length. -/
def readArray {α : Type} (read : Json → Checked α) : Json → Checked (List α)
  | .array elements => readAll read elements
  | _ => .problem .notArray

def readPair : Json → Checked (String × String)
  | .array [] => .both Prod.mk (.problem .fieldMissing) (.problem .fieldMissing)
  | .array [key] => .both Prod.mk (readText key) (.problem .fieldMissing)
  | .array [key, value] => .both Prod.mk (readText key) (readText value)
  | .array elements => .problem (.tooManyMembers 2 elements.length)
  | _ => .problem .notArray

/-- The problems of keys that no field has: one for each. -/
def unknownFields {α : Type} (members : List (String × α)) (known : List String) : List Problem :=
  (members.filter fun member => !known.contains member.1).map fun _ => .fieldUnknown

/-- The key under which a field is present, the preferred one first. -/
def FieldName.key? {α : Type} (field : FieldName) (members : List (String × α)) : Option String :=
  if (Keyed.get? members field.name).isSome then some field.name
  else if (Keyed.get? members field.otherName).isSome then some field.otherName
  else none

/-- The value of a field, under the preferred name if both are present. -/
def FieldName.find? {α : Type} (field : FieldName) (members : List (String × α)) : Option α :=
  match Keyed.get? members field.name with
  | some value => some value
  | none => Keyed.get? members field.otherName

/-- A field that must be there. -/
def FieldName.require {α β : Type} (field : FieldName) (members : List (String × α))
    (read : α → Checked β) : Checked β :=
  match field.find? members with
  | some value => read value
  | none => .problem .fieldMissing

/-- A field that stands for a default when it is missing. -/
def FieldName.orElse {α β : Type} (field : FieldName) (members : List (String × α)) (default : β)
    (read : α → Checked β) : Checked β :=
  match field.find? members with
  | some value => read value
  | none => .valid default

/-- The three parts of attributes, put together. -/
def Attributes.join (identifier : Checked String) (classes : Checked (List String))
    (pairs : Checked (List (String × String))) : Checked Attributes :=
  .both (fun (identifier, classes) pairs => ⟨identifier, classes, pairs⟩)
    (.both Prod.mk identifier classes) pairs

/-- Attributes: an array of three, or an object whose fields may be missing. -/
def Attributes.ofJson : Json → Checked Attributes
  | .array [identifier, classes, pairs] =>
      join (readText identifier) (readArray readText classes) (readArray readPair pairs)
  | .array elements => .problem (.attributesLength elements.length)
  | .object members =>
      (join ((FieldName.only "identifier").orElse members "" readText)
        ((FieldName.only "classes").orElse members [] (readArray readText))
        ((FieldName.only "attributes").orElse members [] (readArray readPair))).also
          (unknownFields members ["identifier", "classes", "attributes"])
  | _ => .problem .notObject

/-- A tag of a vocabulary, as it stands in the field `t`. -/
def readTagName (vocabulary : Vocabulary) : Json → Checked (Tag vocabulary)
  | .string name =>
      if known : name ∈ vocabulary.names then .valid ⟨name, known⟩
      else .problem (.notLiteral vocabulary.names)
  | _ => .problem (.notLiteral vocabulary.names)

/-- A tag: an object with the field `t` alone. -/
def Tag.ofJson (vocabulary : Vocabulary) : Json → Checked (Tag vocabulary)
  | .object members =>
      ((FieldName.only "t").require members (readTagName vocabulary)).also
        (unknownFields members ["t"])
  | _ => .problem .notObject

/-- A number as column width. -/
def readWidth : Json → Checked ColumnWidth
  | .integer value => .valid (.integer value)
  | .float value => .valid (.float value)
  | _ => .invalid .notInteger [.notNumber]

/-- A column width that is a number, apart from its tag. -/
def readWidthFields (members : List (String × Json)) : Checked ColumnWidth :=
  (FieldName.only "c").require members readWidth

/-- A column width of either form; the field `t` tells which. -/
def ColumnWidth.ofJson : Json → Checked ColumnWidth
  | .object members =>
      match Keyed.get? members "t" with
      | none => .problem .tagMissing
      | some (.string "ColWidth") =>
          (readWidthFields members).also (unknownFields members ["t", "c"])
      | some (.string "ColWidthDefault") =>
          (Checked.valid .standard).also (unknownFields members ["t"])
      | some tag => .problem (.tagUnknown tag ["ColWidth", "ColWidthDefault"])
  | _ => .problem .notObject

/-- A field `t` that may be missing, but must have the given value if it is there. -/
def readFixedTag (members : List (String × Json)) (name : String) : Checked Unit :=
  (FieldName.only "t").orElse members () fun tag =>
    match tag with
    | .string given => if given = name then .valid () else .problem (.notLiteral [name])
    | _ => .problem (.notLiteral [name])

/-- A column width that is a number, on its own: its tag may be missing. -/
def ColumnWidth.ofNumberJson : Json → Checked ColumnWidth
  | .object members =>
      (Checked.both (fun _ width => width) (readFixedTag members "ColWidth")
        (readWidthFields members)).also (unknownFields members ["t", "c"])
  | _ => .problem .notObject

/-- The default column width, on its own: its tag may be missing. -/
def ColumnWidth.ofDefaultJson : Json → Checked ColumnWidth
  | .object members =>
      ((readFixedTag members "ColWidthDefault").map fun _ => .standard).also
        (unknownFields members ["t"])
  | _ => .problem .notObject

/-- What a JSON value means for each shape. -/
abbrev Reader : Type :=
  (shape : Shape) → Checked (Tree shape)

def readList (shape : Shape) : List Reader → Checked (Tree (.list shape))
  | [] => .valid .nil
  | element :: others => .both .cons (element shape) (readList shape others)

/-- The members of a tuple; one that is missing is a problem of its own. -/
def readMembers : (shapes : List Shape) → List Reader → Checked (Tree (.tuple shapes))
  | [], _ => .valid .done
  | _ :: others, [] => .both .field (.problem .fieldMissing) (readMembers others [])
  | shape :: others, member :: more => .both .field (member shape) (readMembers others more)

/-- A tuple, which must not have too many members. -/
def readTuple (shapes : List Shape) (members : List Reader) : Checked (Tree (.tuple shapes)) :=
  if shapes.length < members.length then .problem (.tooManyMembers shapes.length members.length)
  else readMembers shapes members

/-- The fields of a citation, in order. -/
def readFields (members : List (String × Reader)) :
    (fields : List CitationField) → Checked (Tree (.tuple (fields.map CitationField.shape)))
  | [] => .valid .done
  | field :: others =>
      .both .field (field.label.require members fun value => value field.shape)
        (readFields members others)

def readCitation (members : List (String × Reader)) : Checked (Tree .citation) :=
  ((readFields members citationFields).map .citation).also
    (unknownFields members (citationFields.filterMap fun field => field.label.key? members))

/-- The payload of a node, in the field `c`; a shape without content has no such field. -/
def readPayload (members : List (String × Reader)) : (shape : Shape) → Checked (Tree shape)
  | .nothing => Checked.valid Tree.nothing |>.also (unknownFields members ["t"])
  | shape =>
      ((FieldName.only "c").require members fun payload => payload shape).also
        (unknownFields members ["t", "c"])

/-- A node of a kind that belongs to a place; the field `t` tells which. -/
def readNode (place : Place) (value : Json) (members : List (String × Reader)) :
    Checked (Tree (.node place)) :=
  match value with
  | .object entries =>
      match Keyed.get? entries "t" with
      | none => .problem .tagMissing
      | some tag =>
          let kind? :=
            match tag with
            | .string name => place.kindNamed? name
            | _ => none
          match kind? with
          | none => .problem (.tagUnknown tag (place.kinds.map NodeKind.name))
          | some kind => (readPayload members kind.payload).map (.node kind)
  | _ => .problem .notObject

/-- What a value means for a shape, given what its elements or the values of its members mean. -/
@[simp]
def readShape (value : Json) (elements : List Reader) (members : List (String × Reader)) :
    (shape : Shape) → Checked (Tree shape)
  | .text => (readText value).map .text
  | .integer => (readInteger value).map .integer
  | .attributes => (Attributes.ofJson value).map .attributes
  | .width => (ColumnWidth.ofJson value).map .width
  | .tag vocabulary => (Tag.ofJson vocabulary value).map .tag
  | .nothing => .valid .nothing
  | .node place => readNode place value members
  | .citation =>
      match value with
      | .object _ => readCitation members
      | _ => .problem .notObject
  | .list element =>
      match value with
      | .array _ => readList element elements
      | _ => .problem .notArray
  | .optional content =>
      match value with
      | .null => .valid .absent
      | _ => (readShape value elements members content).map .present
  | .tuple shapes =>
      match value with
      | .array _ => readTuple shapes elements
      | _ => .problem .notArray

mutual
/-- What a JSON value means for each shape. -/
def read : Json → Reader
  | .array elements => readShape (.array elements) (readElements elements) []
  | .object members => readShape (.object members) [] (readValues members)
  | value => readShape value [] []

def readElements : List Json → List Reader
  | [] => []
  | element :: others => read element :: readElements others

def readValues : List (String × Json) → List (String × Reader)
  | [] => []
  | (key, value) :: others => (key, read value) :: readValues others
end

/-- The tree of a given shape that a JSON value stands for. -/
def Tree.ofJson (shape : Shape) (value : Json) : Checked (Tree shape) :=
  read value shape

/-- The metadata of a document: an object that nothing looks into. -/
def readMetadata : Json → Checked (List (String × Json))
  | .object members => .valid members
  | _ => .problem .notObject

def versionField : FieldName :=
  ⟨"pandoc-api-version", "api_version"⟩

def metadataField : FieldName :=
  .only "meta"

def blocksField : FieldName :=
  .only "blocks"

end DocHighlight.Document

namespace DocHighlight

open Document

/-- The document that a JSON value stands for. -/
def Document.ofJson : Json → Checked Document
  | .object members =>
      let version := versionField.require members (readArray readInteger)
      let metadata := metadataField.require members readMetadata
      let blocks := blocksField.require members (readArray (Tree.ofJson (.node .block)))
      (Checked.both (fun (version, metadata) blocks => ⟨version, metadata, blocks⟩)
        (.both Prod.mk version metadata) blocks).also
          (unknownFields members
            ([versionField, metadataField, blocksField].filterMap fun field => field.key? members))
  | _ => .problem .notObject

end DocHighlight
