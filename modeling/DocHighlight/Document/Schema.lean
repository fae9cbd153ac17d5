/-!
# The shapes of a document tree

A document is built from nodes, each of them a block or an inline, and each place for a node is due
to one of the two. Each kind of nodes has a name and declares the shape of its payload: texts,
integers, attributes, column widths, tags from a fixed list, citations, further nodes, and lists,
optional values and tuples of these. A kind may have no payload.
-/

namespace DocHighlight.Document

/-- The fixed lists that tags are taken from. -/
inductive Vocabulary where
  | alignment
  | quoteType
  | mathType
  | numberStyle
  | numberDelimiter
  | citationMode
deriving DecidableEq, Repr

def Vocabulary.names : Vocabulary → List String
  | .alignment => ["AlignLeft", "AlignRight", "AlignCenter", "AlignDefault"]
  | .quoteType => ["SingleQuote", "DoubleQuote"]
  | .mathType => ["DisplayMath", "InlineMath"]
  | .numberStyle =>
      ["DefaultStyle", "Example", "Decimal", "LowerRoman", "UpperRoman", "LowerAlpha", "UpperAlpha"]
  | .numberDelimiter => ["DefaultDelim", "Period", "OneParen", "TwoParens"]
  | .citationMode => ["AuthorInText", "SuppressAuthor", "NormalCitation"]

/-- What a place in a document is due to. -/
inductive Place where
  | inline
  | block
deriving DecidableEq, Repr

/-- The shape of a part of a document tree. -/
inductive Shape where
  | text
  | integer
  | attributes
  | width
  | tag (vocabulary : Vocabulary)
  | nothing
  | node (place : Place)
  | citation
  | list (element : Shape)
  | optional (content : Shape)
  | tuple (members : List Shape)

/-- The kinds of nodes: first those of inlines, then those of blocks. -/
inductive NodeKind where
  | str
  | emph
  | underline
  | strong
  | strikeout
  | superscript
  | subscript
  | smallCaps
  | quoted
  | cite
  | code
  | space
  | softBreak
  | lineBreak
  | math
  | rawInline
  | link
  | image
  | note
  | span
  | plain
  | para
  | lineBlock
  | codeBlock
  | rawBlock
  | blockQuote
  | orderedList
  | bulletList
  | definitionList
  | header
  | horizontalRule
  | table
  | figure
  | div
  | null
deriving DecidableEq, Repr

/-- The kinds that a place is due to, in the order in which messages list them. -/
def Place.kinds : Place → List NodeKind
  | .inline =>
      [.str, .emph, .underline, .strong, .strikeout, .superscript, .subscript, .smallCaps, .quoted,
       .cite, .code, .space, .softBreak, .lineBreak, .math, .rawInline, .link, .image, .note, .span]
  | .block =>
      [.plain, .para, .lineBlock, .codeBlock, .rawBlock, .blockQuote, .orderedList, .bulletList,
       .definitionList, .header, .horizontalRule, .table, .figure, .div, .null]

namespace Shape

abbrev inlines : Shape :=
  .list (.node .inline)

abbrev blocks : Shape :=
  .list (.node .block)

/-- A link target: address and title. -/
abbrev target : Shape :=
  .tuple [.text, .text]

/-- A caption: an optional short form and the full one. -/
abbrev caption : Shape :=
  .tuple [.optional inlines, blocks]

/-- A column of a table: alignment and width. -/
abbrev column : Shape :=
  .tuple [.tag .alignment, .width]

/-- A cell of a table: attributes, alignment, row span, column span and content. -/
abbrev cell : Shape :=
  .tuple [.attributes, .tag .alignment, .integer, .integer, blocks]

/-- A row of a table. -/
abbrev row : Shape :=
  .tuple [.attributes, .list cell]

abbrev tableHead : Shape :=
  .tuple [.attributes, .list row]

/-- A body of a table: attributes, number of row head columns, head rows and body rows. -/
abbrev tableBody : Shape :=
  .tuple [.attributes, .integer, .list row, .list row]

abbrev tableFoot : Shape :=
  .tuple [.attributes, .list row]

/-- How a numbered list counts: first number, style and delimiter. -/
abbrev numbering : Shape :=
  .tuple [.integer, .tag .numberStyle, .tag .numberDelimiter]

/-- A term of a definition list with its definitions. -/
abbrev definition : Shape :=
  .tuple [inlines, .list blocks]

end Shape

namespace NodeKind

def name : NodeKind → String
  | .str => "Str"
  | .emph => "Emph"
  | .underline => "Underline"
  | .strong => "Strong"
  | .strikeout => "Strikeout"
  | .superscript => "Superscript"
  | .subscript => "Subscript"
  | .smallCaps => "SmallCaps"
  | .quoted => "Quoted"
  | .cite => "Cite"
  | .code => "Code"
  | .space => "Space"
  | .softBreak => "SoftBreak"
  | .lineBreak => "LineBreak"
  | .math => "Math"
  | .rawInline => "RawInline"
  | .link => "Link"
  | .image => "Image"
  | .note => "Note"
  | .span => "Span"
  | .plain => "Plain"
  | .para => "Para"
  | .lineBlock => "LineBlock"
  | .codeBlock => "CodeBlock"
  | .rawBlock => "RawBlock"
  | .blockQuote => "BlockQuote"
  | .orderedList => "OrderedList"
  | .bulletList => "BulletList"
  | .definitionList => "DefinitionList"
  | .header => "Header"
  | .horizontalRule => "HorizontalRule"
  | .table => "Table"
  | .figure => "Figure"
  | .div => "Div"
  | .null => "Null"

def payload : NodeKind → Shape
  | .str => .text
  | .emph | .underline | .strong | .strikeout | .superscript | .subscript | .smallCaps => .inlines
  | .quoted => .tuple [.tag .quoteType, .inlines]
  | .cite => .tuple [.list .citation, .inlines]
  | .code | .codeBlock => .tuple [.attributes, .text]
  | .space | .softBreak | .lineBreak | .horizontalRule | .null => .nothing
  | .math => .tuple [.tag .mathType, .text]
  | .rawInline | .rawBlock => .tuple [.text, .text]
  | .link | .image => .tuple [.attributes, .inlines, .target]
  | .note | .blockQuote => .blocks
  | .span => .tuple [.attributes, .inlines]
  | .plain | .para => .inlines
  | .lineBlock => .list .inlines
  | .orderedList => .tuple [.numbering, .list .blocks]
  | .bulletList => .list .blocks
  | .definitionList => .list .definition
  | .header => .tuple [.integer, .attributes, .inlines]
  | .table =>
      .tuple [.attributes, .caption, .list .column, .tableHead, .list .tableBody, .tableFoot]
  | .figure => .tuple [.attributes, .caption, .blocks]
  | .div => .tuple [.attributes, .blocks]

/-- Whether a node of a kind belongs to a place. -/
def fits (kind : NodeKind) (place : Place) : Bool :=
  place.kinds.contains kind

end NodeKind

/-- The kind of a given name that a place is due to. -/
def Place.kindNamed? (place : Place) (name : String) : Option NodeKind :=
  place.kinds.find? fun kind => kind.name = name

/-- The name of a record's field, and the other name under which it is accepted. -/
structure FieldName where
  name : String
  otherName : String
deriving DecidableEq, Repr

def FieldName.only (name : String) : FieldName :=
  ⟨name, name⟩

/-- A field of a citation: its names and the shape of its value. -/
structure CitationField where
  label : FieldName
  shape : Shape

/-- The fields of a citation, in the order in which they are written. -/
def citationFields : List CitationField :=
  [⟨⟨"citationId", "id"⟩, .text⟩,
   ⟨⟨"citationPrefix", "prefix"⟩, .inlines⟩,
   ⟨⟨"citationSuffix", "suffix"⟩, .inlines⟩,
   ⟨⟨"citationMode", "mode"⟩, .tag .citationMode⟩,
   ⟨⟨"citationNoteNum", "note_num"⟩, .integer⟩,
   ⟨⟨"citationHash", "hash"⟩, .integer⟩]

end DocHighlight.Document
