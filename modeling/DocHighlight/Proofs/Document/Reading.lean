import DocHighlight.Proofs.Document.Records
import DocHighlight.Proofs.Json.Traversal

/-!
# What is read as what

A JSON value is read as a tree exactly if the relation `Reads` holds between them. The relation has
one rule for each form of a tree, and says of every object which members it has, in whatever order.
Proofs about documents go by its rules, and the functions that read are opened here only.

Objects are supposed to have distinct keys throughout, as all objects have that come from a text.
-/

namespace DocHighlight.Document

/-- A member that is there with a value, or is not there and has a default instead. -/
def GivenOr (members : List (String × Json)) (name : String) (value : Json) (isDefault : Prop) :
    Prop :=
  Keyed.get? members name = some value ∨ Keyed.get? members name = none ∧ isDefault

def textsToJson (texts : List String) : Json :=
  .array (texts.map .string)

def pairsToJson (pairs : List (String × String)) : Json :=
  .array (pairs.map fun pair => .array [.string pair.1, .string pair.2])

/-- What is read as attributes: their JSON form, or an object of which any part may be missing. -/
inductive ReadsAttributes : Json → Attributes → Prop where
  | array (attributes : Attributes) : ReadsAttributes attributes.toJson attributes
  | object {members : List (String × Json)} {attributes : Attributes}
      (identifier : GivenOr members "identifier" (.string attributes.identifier)
        (attributes.identifier = ""))
      (classes : GivenOr members "classes" (textsToJson attributes.classes)
        (attributes.classes = []))
      (pairs : GivenOr members "attributes" (pairsToJson attributes.pairs) (attributes.pairs = []))
      (known : ∀ key ∈ Keyed.keys members, key ∈ ["identifier", "classes", "attributes"]) :
      ReadsAttributes (.object members) attributes

/-- The members of the JSON form of a column width. -/
def ColumnWidth.members : ColumnWidth → List (String × Json)
  | .standard => [("t", .string "ColWidthDefault")]
  | .integer value => [("t", .string "ColWidth"), ("c", .integer value)]
  | .float value => [("t", .string "ColWidth"), ("c", .float value)]

/-- The members of the JSON form of a node, given that of its payload. -/
def NodeKind.members (kind : NodeKind) (payload : Json) : List (String × Json) :=
  match kind.payload with
  | .nothing => [("t", .string kind.name)]
  | _ => [("t", .string kind.name), ("c", payload)]

abbrev citationLabels : List FieldName :=
  citationFields.map CitationField.label

/-- What is read as which tree. -/
inductive Reads : {shape : Shape} → Json → Tree shape → Prop where
  | text (value : String) : Reads (.string value) (.text value)
  | integer (value : Int) : Reads (.integer value) (.integer value)
  | attributes {value : Json} {attributes : Attributes}
      (given : ReadsAttributes value attributes) : Reads value (.attributes attributes)
  | width {members : List (String × Json)} {width : ColumnWidth}
      (perm : members.Perm width.members) : Reads (.object members) (.width width)
  | tag {vocabulary : Vocabulary} (tag : Tag vocabulary) : Reads tag.toJson (.tag tag)
  | nothing (value : Json) : Reads value .nothing
  | node {place : Place} {kind : NodeKind} {members : List (String × Json)} {value : Json}
      {payload : Tree kind.payload} (fits : kind.fits place = true)
      (perm : members.Perm (kind.members value)) (inner : Reads value payload) :
      Reads (.object members) (@Tree.node place kind payload)
  | citation {naming : FieldName → String} {members : List (String × Json)} {values : List Json}
      {fields : Tree (.tuple (citationFields.map CitationField.shape))}
      (names : Naming citationLabels naming)
      (perm : members.Perm ((citationLabels.map naming).zip values))
      (inner : Reads (.array values) fields) : Reads (.object members) (.citation fields)
  | nil {element : Shape} : Reads (.array []) (@Tree.nil element)
  | cons {element : Shape} {value : Json} {values : List Json} {first : Tree element}
      {others : Tree (.list element)} (head : Reads value first)
      (tail : Reads (.array values) others) : Reads (.array (value :: values)) (.cons first others)
  | absent {content : Shape} : Reads .null (@Tree.absent content)
  | present {content : Shape} {value : Json} {tree : Tree content} (notNull : value ≠ .null)
      (inner : Reads value tree) : Reads value (.present tree)
  | done : Reads (.array []) .done
  | field {shape : Shape} {shapes : List Shape} {value : Json} {values : List Json}
      {first : Tree shape} {others : Tree (.tuple shapes)} (head : Reads value first)
      (tail : Reads (.array values) others) : Reads (.array (value :: values)) (.field first others)

theorem readText_eq_valid {value : Json} {text : String} :
    readText value = .valid text ↔ value = .string text := by
  cases value <;> simp [readText]

theorem readInteger_eq_valid {value : Json} {number : Int} :
    readInteger value = .valid number ↔ value = .integer number := by
  cases value <;> simp [readInteger]

/-- If what is read is just what is written, then this holds of arrays too. -/
theorem readArray_eq_valid {α : Type} {read : Json → Checked α} {write : α → Json}
    (each : ∀ {value a}, read value = .valid a ↔ value = write a) {value : Json} {all : List α} :
    readArray read value = .valid all ↔ value = .array (all.map write) := by
  have elementsEq : ∀ elements, readAll read elements = .valid all ↔ elements = all.map write := by
    intro elements
    induction elements generalizing all with
    | nil => cases all <;> simp [readAll]
    | cons element others ih => cases all <;> simp [readAll, each, ih]
  cases value <;> simp [readArray, elementsEq]

theorem readPair_eq_valid {value : Json} {pair : String × String} :
    readPair value = .valid pair ↔ value = .array [.string pair.1, .string pair.2] := by
  rcases pair with ⟨key, text⟩
  cases value with
  | array elements =>
      rcases elements with _ | ⟨first, _ | ⟨second, _ | ⟨third, others⟩⟩⟩ <;>
        simp [readPair, readText_eq_valid]
  | _ => simp [readPair]

theorem join_eq_valid {identifier : Checked String} {classes : Checked (List String)}
    {pairs : Checked (List (String × String))} {attributes : Attributes} :
    Attributes.join identifier classes pairs = .valid attributes ↔
      identifier = .valid attributes.identifier ∧ classes = .valid attributes.classes ∧
        pairs = .valid attributes.pairs := by
  rcases attributes with ⟨name, words, entries⟩
  simp only [Attributes.join, Checked.both_eq_valid, Attributes.mk.injEq]
  constructor
  · rintro ⟨_, _, ⟨_, _, first, second, rfl⟩, third, rfl, rfl, rfl⟩
    exact ⟨first, second, third⟩
  · rintro ⟨first, second, third⟩
    exact ⟨_, _, ⟨_, _, first, second, rfl⟩, third, rfl, rfl, rfl⟩

theorem givenOr_iff {α : Type} {members : List (String × Json)} {name : String}
    {read : Json → Checked α} {write : α → Json}
    (each : ∀ {value a}, read value = .valid a ↔ value = write a) {default a : α} :
    (FieldName.only name).orElse members default read = .valid a ↔
      GivenOr members name (write a) (a = default) := by
  rw [orElse_eq_valid, GivenOr]
  simp only [each, exists_eq_right, eq_comm]

theorem attributes_ofJson_eq_valid {value : Json} {attributes : Attributes} :
    Attributes.ofJson value = .valid attributes ↔ ReadsAttributes value attributes := by
  constructor
  · intro read
    cases value with
    | array elements =>
        rcases elements with _ | ⟨first, _ | ⟨second, _ | ⟨third, _ | ⟨fourth, others⟩⟩⟩⟩ <;>
          simp only [Attributes.ofJson, Checked.problem_eq_valid, join_eq_valid, readText_eq_valid,
            readArray_eq_valid readText_eq_valid, readArray_eq_valid readPair_eq_valid] at read
        rcases read with ⟨rfl, rfl, rfl⟩
        exact .array attributes
    | object members =>
        simp only [Attributes.ofJson, Checked.also_eq_valid, join_eq_valid,
          givenOr_iff readText_eq_valid, givenOr_iff (readArray_eq_valid readText_eq_valid),
          givenOr_iff (readArray_eq_valid readPair_eq_valid), unknownFields_eq_nil] at read
        rcases read with ⟨⟨identifier, classes, pairs⟩, known⟩
        exact .object identifier classes pairs known
    | _ => simp [Attributes.ofJson] at read
  · intro reads
    cases reads with
    | array attributes =>
        simp only [Attributes.toJson, Attributes.ofJson, join_eq_valid, readText_eq_valid,
          readArray_eq_valid readText_eq_valid, readArray_eq_valid readPair_eq_valid, and_self]
    | object identifier classes pairs known =>
        simp only [Attributes.ofJson, Checked.also_eq_valid, join_eq_valid,
          givenOr_iff readText_eq_valid, givenOr_iff (readArray_eq_valid readText_eq_valid),
          givenOr_iff (readArray_eq_valid readPair_eq_valid), unknownFields_eq_nil]
        exact ⟨⟨identifier, classes, pairs⟩, known⟩

theorem perm_tag_iff {members : List (String × Json)} (distinct : (Keyed.keys members).Nodup)
    {value : Json} : members = [("t", value)] ↔
      Keyed.get? members "t" = some value ∧ ∀ key ∈ Keyed.keys members, key ∈ ["t"] := by
  rw [← List.perm_singleton, Keyed.perm_iff distinct (by simp [Keyed.keys])]
  simp [Keyed.keys]

theorem perm_tagged_iff {members : List (String × Json)} (distinct : (Keyed.keys members).Nodup)
    {tag value : Json} : members.Perm [("t", tag), ("c", value)] ↔
      Keyed.get? members "t" = some tag ∧ Keyed.get? members "c" = some value ∧
        ∀ key ∈ Keyed.keys members, key ∈ ["t", "c"] := by
  rw [Keyed.perm_iff distinct (by simp [Keyed.keys])]
  simp [Keyed.keys, and_assoc]

theorem tag_ofJson_eq_valid {vocabulary : Vocabulary} {value : Json}
    (distinct : value.DistinctKeys) {tag : Tag vocabulary} :
    Tag.ofJson vocabulary value = .valid tag ↔ value = tag.toJson := by
  have nameEqValid : ∀ given : Json,
      readTagName vocabulary given = .valid tag ↔ given = .string tag.name := by
    intro given
    rcases tag with ⟨name, known⟩
    cases given with
    | string other =>
        simp only [readTagName]
        split
        · simp
        · rename_i unknown
          simp only [Checked.problem_eq_valid, Json.string.injEq, false_iff]
          rintro rfl
          exact unknown known
    | _ => simp [readTagName]
  cases value with
  | object members =>
      have distinctMembers := (Json.distinctKeys_object.mp distinct).1
      simp only [Tag.ofJson, Checked.also_eq_valid, require_eq_valid, find?_only, nameEqValid,
        exists_eq_right, unknownFields_eq_nil, Tag.toJson, Json.object.injEq,
        perm_tag_iff distinctMembers]
  | _ => simp [Tag.ofJson, Tag.toJson]

theorem readWidthFields_eq_valid {members : List (String × Json)} {width : ColumnWidth} :
    readWidthFields members = .valid width ↔
      ∃ given, Keyed.get? members "c" = some given ∧
        width.members = [("t", .string "ColWidth"), ("c", given)] := by
  simp only [readWidthFields, require_eq_valid, find?_only]
  apply exists_congr
  intro given
  apply and_congr_right
  intro _
  cases given <;> cases width <;> simp [readWidth, ColumnWidth.members, eq_comm]

theorem width_ofJson_eq_valid {members : List (String × Json)}
    (distinct : (Keyed.keys members).Nodup) {width : ColumnWidth} :
    ColumnWidth.ofJson (.object members) = .valid width ↔ members.Perm width.members := by
  constructor
  · intro read
    simp only [ColumnWidth.ofJson] at read
    split at read
    · simp at read
    · rename_i tagged
      simp only [Checked.also_eq_valid, readWidthFields_eq_valid, unknownFields_eq_nil] at read
      rcases read with ⟨⟨given, found, same⟩, known⟩
      rw [same, perm_tagged_iff distinct]
      exact ⟨tagged, found, known⟩
    · rename_i tagged
      simp only [Checked.also_eq_valid, Checked.valid.injEq, unknownFields_eq_nil] at read
      rcases read with ⟨rfl, known⟩
      rw [ColumnWidth.members, List.perm_singleton, perm_tag_iff distinct]
      exact ⟨tagged, known⟩
    · simp at read
  · intro perm
    have number : ∀ given, width.members = [("t", .string "ColWidth"), ("c", given)] →
        ColumnWidth.ofJson (.object members) = .valid width := by
      intro given same
      rw [same, perm_tagged_iff distinct] at perm
      rcases perm with ⟨tagged, found, known⟩
      simp only [ColumnWidth.ofJson, tagged, Checked.also_eq_valid, readWidthFields_eq_valid,
        unknownFields_eq_nil]
      exact ⟨⟨given, found, same⟩, known⟩
    cases width with
    | standard =>
        rw [ColumnWidth.members, List.perm_singleton, perm_tag_iff distinct] at perm
        simp only [ColumnWidth.ofJson, perm.1, Checked.also_eq_valid, unknownFields_eq_nil]
        exact ⟨trivial, perm.2⟩
    | integer value => exact number _ rfl
    | float value => exact number _ rfl

theorem kindNamed?_name (place : Place) :
    ∀ kind ∈ place.kinds, place.kindNamed? kind.name = some kind := by
  cases place <;> decide

theorem kindNamed?_eq_some {place : Place} {name : String} {kind : NodeKind} :
    place.kindNamed? name = some kind ↔ kind.fits place = true ∧ kind.name = name := by
  constructor
  · intro found
    have mem := List.mem_of_find?_eq_some found
    have named := List.find?_some found
    exact ⟨List.contains_iff_mem.mpr mem, of_decide_eq_true named⟩
  · rintro ⟨fits, rfl⟩
    exact kindNamed?_name place kind (List.contains_iff_mem.mp fits)

@[simp]
theorem readElements_eq_map (elements : List Json) : readElements elements = elements.map read := by
  induction elements with
  | nil => rfl
  | cons element others ih => simp [readElements, ih]

@[simp]
theorem readValues_eq_map (members : List (String × Json)) :
    readValues members = members.map fun member => (member.1, read member.2) := by
  induction members with
  | nil => rfl
  | cons member others ih => simp [readValues, ih]

@[simp]
theorem find?_map {α β : Type} (label : FieldName) (members : List (String × α)) (change : α → β) :
    label.find? (members.map fun member => (member.1, change member.2)) =
      (label.find? members).map change := by
  simp only [FieldName.find?, Keyed.get?_map]
  cases Keyed.get? members label.name <;> rfl

@[simp]
theorem key?_map {α β : Type} (label : FieldName) (members : List (String × α)) (change : α → β) :
    label.key? (members.map fun member => (member.1, change member.2)) = label.key? members := by
  simp [FieldName.key?]

theorem readPayload_eq_valid {members : List (String × Json)}
    (distinct : (Keyed.keys members).Nodup) {kind : NodeKind}
    (tagged : Keyed.get? members "t" = some (.string kind.name)) {payload : Tree kind.payload} :
    readPayload (members.map fun member => (member.1, read member.2)) kind.payload =
        .valid payload ↔
      ∃ value, members.Perm (kind.members value) ∧
        Tree.ofJson kind.payload value = .valid payload := by
  simp only [NodeKind.members]
  generalize kind.payload = shape at payload
  cases shape with
  | nothing =>
      cases payload
      simp only [readPayload, Checked.also_eq_valid, unknownFields_eq_nil, Keyed.keys_map,
        List.perm_singleton, perm_tag_iff distinct, tagged, true_and]
      constructor
      · intro known
        exact ⟨.null, known, rfl⟩
      · rintro ⟨_, known, -⟩
        exact known
  | _ =>
      simp only [readPayload, Checked.also_eq_valid, require_eq_valid, find?_only, Keyed.get?_map,
        unknownFields_eq_nil, Keyed.keys_map, perm_tagged_iff distinct, tagged, true_and,
        Option.map_eq_some_iff]
      constructor
      · rintro ⟨⟨_, ⟨value, found, rfl⟩, inner⟩, known⟩
        exact ⟨value, ⟨found, known⟩, inner⟩
      · rintro ⟨value, ⟨found, known⟩, inner⟩
        exact ⟨⟨_, ⟨value, found, rfl⟩, inner⟩, known⟩

theorem tagged_of_perm {members : List (String × Json)} (distinct : (Keyed.keys members).Nodup)
    {kind : NodeKind} {value : Json} (perm : members.Perm (kind.members value)) :
    Keyed.get? members "t" = some (.string kind.name) := by
  apply Keyed.get?_of_mem distinct
  rw [perm.mem_iff, NodeKind.members]
  split <;> exact List.mem_cons_self ..

theorem ofJson_node {place : Place} {kind : NodeKind} {payload : Tree kind.payload} {value : Json}
    (distinct : value.DistinctKeys) :
    Tree.ofJson (.node place) value = .valid (.node kind payload) ↔
      kind.fits place = true ∧ ∃ members inner, value = .object members ∧
        members.Perm (kind.members inner) ∧ Tree.ofJson kind.payload inner = .valid payload := by
  cases value with
  | object members =>
      have distinctMembers := (Json.distinctKeys_object.mp distinct).1
      have readEq : Tree.ofJson (.node place) (.object members) = readNode place (.object members)
          (members.map fun member => (member.1, read member.2)) := by
        simp only [Tree.ofJson, read, readShape, readValues_eq_map]
      rw [readEq]
      constructor
      · intro nodeRead
        simp only [readNode] at nodeRead
        split at nodeRead
        · simp at nodeRead
        rename_i tag tagged
        split at nodeRead
        · simp at nodeRead
        rename_i foundKind kindFound
        cases tag with
        | string name =>
            rcases kindNamed?_eq_some.mp kindFound with ⟨fits, rfl⟩
            rcases Checked.map_eq_valid.mp nodeRead with ⟨foundPayload, payloadRead, same⟩
            cases same
            rcases (readPayload_eq_valid distinctMembers tagged).mp payloadRead with
              ⟨inner, perm, readInner⟩
            exact ⟨fits, members, inner, rfl, perm, readInner⟩
        | _ => cases kindFound
      · rintro ⟨fits, _, inner, same, perm, readInner⟩
        cases same
        have tagged := tagged_of_perm distinctMembers perm
        have named := (@kindNamed?_eq_some place kind.name kind).mpr ⟨fits, rfl⟩
        have payloadRead := (readPayload_eq_valid distinctMembers tagged).mpr
          ⟨inner, perm, readInner⟩
        simp only [readNode, tagged, named, payloadRead, Checked.map]
  | _ => simp [Tree.ofJson, read, readShape, readNode]

theorem ofJson_nil {element : Shape} {value : Json} :
    Tree.ofJson (.list element) value = .valid .nil ↔ value = .array [] := by
  cases value with
  | array elements =>
      cases elements <;> simp [Tree.ofJson, read, readShape, readList]
  | _ => simp [Tree.ofJson, read, readShape]

theorem ofJson_cons {element : Shape} {first : Tree element} {others : Tree (.list element)}
    {value : Json} :
    Tree.ofJson (.list element) value = .valid (.cons first others) ↔
      ∃ head tail, value = .array (head :: tail) ∧ Tree.ofJson element head = .valid first ∧
        Tree.ofJson (.list element) (.array tail) = .valid others := by
  cases value with
  | array elements =>
      cases elements with
      | nil => simp [Tree.ofJson, read, readShape, readList]
      | cons head tail =>
          simp only [Tree.ofJson, read, readShape, readElements_eq_map, List.map_cons, readList,
            Checked.both_eq_valid, Tree.cons.injEq, Json.array.injEq, List.cons.injEq]
          constructor
          · rintro ⟨_, _, readHead, readTail, rfl, rfl⟩
            exact ⟨head, tail, ⟨rfl, rfl⟩, readHead, readTail⟩
          · rintro ⟨_, _, ⟨rfl, rfl⟩, readHead, readTail⟩
            exact ⟨_, _, readHead, readTail, rfl, rfl⟩
  | _ => simp [Tree.ofJson, read, readShape]

theorem ofJson_absent {content : Shape} {value : Json} :
    Tree.ofJson (.optional content) value = .valid .absent ↔ value = .null := by
  cases value <;> simp [Tree.ofJson, read, readShape]

theorem ofJson_present {content : Shape} {tree : Tree content} {value : Json} :
    Tree.ofJson (.optional content) value = .valid (.present tree) ↔
      value ≠ .null ∧ Tree.ofJson content value = .valid tree := by
  cases value <;> simp [Tree.ofJson, read, readShape]

/-- A tuple is read member by member if there are not too many. -/
theorem ofJson_tuple {shapes : List Shape} {elements : List Json} :
    Tree.ofJson (.tuple shapes) (.array elements) = readTuple shapes (elements.map read) := by
  simp [Tree.ofJson, read, readShape]

theorem ofJson_done {value : Json} :
    Tree.ofJson (.tuple []) value = .valid .done ↔ value = .array [] := by
  cases value with
  | array elements =>
      cases elements <;> simp [ofJson_tuple, readTuple, readMembers]
  | _ => simp [Tree.ofJson, read, readShape]

theorem ofJson_field {shape : Shape} {shapes : List Shape} {first : Tree shape}
    {others : Tree (.tuple shapes)} {value : Json} :
    Tree.ofJson (.tuple (shape :: shapes)) value = .valid (.field first others) ↔
      ∃ head tail, value = .array (head :: tail) ∧ Tree.ofJson shape head = .valid first ∧
        Tree.ofJson (.tuple shapes) (.array tail) = .valid others := by
  cases value with
  | array elements =>
      cases elements with
      | nil => simp [ofJson_tuple, readTuple, readMembers]
      | cons head tail =>
          simp only [ofJson_tuple, readTuple, List.length_cons, List.map_cons,
            Nat.add_lt_add_iff_right, Json.array.injEq, List.cons.injEq]
          by_cases many : shapes.length < (tail.map read).length
          · rw [if_pos many, Checked.problem_eq_valid, false_iff]
            rintro ⟨_, _, ⟨rfl, rfl⟩, -, readTail⟩
            rw [if_pos many, Checked.problem_eq_valid] at readTail
            exact readTail
          · rw [if_neg many]
            simp only [readMembers, Checked.both_eq_valid, Tree.field.injEq]
            constructor
            · rintro ⟨_, _, readHead, readTail, rfl, rfl⟩
              exact ⟨head, tail, ⟨rfl, rfl⟩, readHead, by rw [if_neg many]; exact readTail⟩
            · rintro ⟨_, _, ⟨rfl, rfl⟩, readHead, readTail⟩
              rw [if_neg many] at readTail
              exact ⟨_, _, readHead, readTail, rfl, rfl⟩
  | _ => simp [Tree.ofJson, read, readShape]

/-- The fields of a citation are read like the members of a tuple. -/
theorem readFields_eq_valid {members : List (String × Json)} {fields : List CitationField}
    {trees : Tree (.tuple (fields.map CitationField.shape))} :
    readFields (members.map fun member => (member.1, read member.2)) fields = .valid trees ↔
      ∃ values, (fields.map CitationField.label).map (fun label => label.find? members) =
          values.map some ∧
        Tree.ofJson (.tuple (fields.map CitationField.shape)) (.array values) = .valid trees := by
  induction fields with
  | nil =>
      cases trees
      constructor
      · intro _
        exact ⟨[], rfl, ofJson_done.mpr rfl⟩
      · intro _
        exact rfl
  | cons field fields ih =>
      cases trees with
      | field first others =>
          simp only [readFields, Checked.both_eq_valid, require_eq_valid, find?_map, ih,
            Option.map_eq_some_iff, List.map_cons]
          constructor
          · rintro ⟨_, _, ⟨_, ⟨value, found, rfl⟩, readFirst⟩, ⟨values, allFound, readOthers⟩, same⟩
            cases same
            refine ⟨value :: values, ?_,
              ofJson_field.mpr ⟨value, values, rfl, readFirst, readOthers⟩⟩
            rw [found, allFound, List.map_cons]
          · rintro ⟨values, allFound, allRead⟩
            rcases ofJson_field.mp allRead with ⟨value, more, same, readFirst, readOthers⟩
            cases same
            rw [List.map_cons, List.cons.injEq] at allFound
            exact ⟨_, _, ⟨_, ⟨value, allFound.1, rfl⟩, readFirst⟩,
              ⟨more, allFound.2, readOthers⟩, rfl⟩

theorem citationLabels_apart : citationLabels.Pairwise FieldName.Apart := by
  decide

/-- What is read as a tuple has not more members than the tuple. -/
theorem length_of_ofJson_tuple {shapes : List Shape} {values : List Json}
    {tree : Tree (.tuple shapes)}
    (readTree : Tree.ofJson (.tuple shapes) (.array values) = .valid tree) :
    values.length = shapes.length := by
  induction shapes generalizing values with
  | nil =>
      cases tree
      cases ofJson_done.mp readTree
      rfl
  | cons shape shapes ih =>
      cases tree with
      | field first others =>
          rcases ofJson_field.mp readTree with ⟨head, tail, same, -, readOthers⟩
          cases same
          rw [List.length_cons, List.length_cons, ih readOthers]

/-- A citation is read from an object with its fields, each under one of its names. -/
theorem ofJson_citation {fields : Tree (.tuple (citationFields.map CitationField.shape))}
    {value : Json} (distinct : value.DistinctKeys) :
    Tree.ofJson .citation value = .valid (.citation fields) ↔
      ∃ naming members values, Naming citationLabels naming ∧ value = .object members ∧
        members.Perm ((citationLabels.map naming).zip values) ∧
        Tree.ofJson (.tuple (citationFields.map CitationField.shape)) (.array values) =
          .valid fields := by
  cases value with
  | object members =>
      have distinctMembers := (Json.distinctKeys_object.mp distinct).1
      have labelsKey : ∀ key, key ∈ citationFields.filterMap (fun field =>
            field.label.key? (members.map fun member => (member.1, read member.2))) ↔
          key ∈ citationLabels.filterMap fun label => label.key? members := by
        intro key
        rw [List.filterMap_map]
        simp only [key?_map, Function.comp_def]
      simp only [Tree.ofJson, read, readShape, readValues_eq_map, readCitation,
        Checked.also_eq_valid, Checked.map_eq_valid, readFields_eq_valid, unknownFields_eq_nil,
        Keyed.keys_map, labelsKey, Tree.citation.injEq, exists_eq_right]
      constructor
      · rintro ⟨⟨values, found, valuesRead⟩, known⟩
        rcases (record_iff citationLabels_apart distinctMembers).mp ⟨found, known⟩ with
          ⟨naming, names, -, perm⟩
        exact ⟨naming, members, values, names, rfl, perm, valuesRead⟩
      · rintro ⟨naming, _, values, names, same, perm, valuesRead⟩
        cases same
        have length : values.length = citationLabels.length := length_of_ofJson_tuple valuesRead
        have foundNames := (record_iff citationLabels_apart distinctMembers).mpr
          ⟨naming, names, length, perm⟩
        rcases foundNames with ⟨found, known⟩
        exact ⟨⟨values, found, valuesRead⟩, known⟩
  | _ => simp [Tree.ofJson, read, readShape]

theorem distinct_of_perm {members entries : List (String × Json)}
    (distinct : (Json.object members).DistinctKeys) (perm : members.Perm entries)
    {entry : String × Json} (mem : entry ∈ entries) : entry.2.DistinctKeys :=
  (Json.distinctKeys_object.mp distinct).2 entry (perm.mem_iff.mpr mem)

theorem ofJson_text {value : Json} : Tree.ofJson .text value = (readText value).map .text := by
  cases value <;> rfl

theorem ofJson_integer {value : Json} :
    Tree.ofJson .integer value = (readInteger value).map .integer := by
  cases value <;> rfl

theorem ofJson_attributes {value : Json} :
    Tree.ofJson .attributes value = (Attributes.ofJson value).map .attributes := by
  cases value <;> rfl

theorem ofJson_width {value : Json} :
    Tree.ofJson .width value = (ColumnWidth.ofJson value).map .width := by
  cases value <;> rfl

theorem ofJson_tag {vocabulary : Vocabulary} {value : Json} :
    Tree.ofJson (.tag vocabulary) value = (Tag.ofJson vocabulary value).map .tag := by
  cases value <;> rfl

theorem ofJson_nothing (value : Json) : Tree.ofJson .nothing value = .valid .nothing := by
  cases value <;> rfl

theorem payload_mem_members {kind : NodeKind} (notBare : kind.payload ≠ .nothing) (value : Json) :
    ("c", value) ∈ kind.members value := by
  rw [NodeKind.members]
  split
  · rename_i bare
    exact absurd bare notBare
  · exact List.mem_cons_of_mem _ (List.mem_cons_self ..)

theorem distinct_payload {kind : NodeKind} {members : List (String × Json)} {value : Json}
    (distinct : (Json.object members).DistinctKeys) (perm : members.Perm (kind.members value)) :
    kind.payload = .nothing ∨ value.DistinctKeys := by
  by_cases bare : kind.payload = .nothing
  · exact .inl bare
  · exact .inr (distinct_of_perm distinct perm (payload_mem_members bare value))

theorem reads_of_nothing {shape : Shape} (bare : shape = .nothing) (value : Json)
    (tree : Tree shape) : Reads value tree := by
  subst bare
  cases tree
  exact .nothing value

theorem ofJson_of_nothing {shape : Shape} (bare : shape = .nothing) (value : Json)
    (tree : Tree shape) : Tree.ofJson shape value = .valid tree := by
  subst bare
  cases tree
  exact ofJson_nothing value

theorem exists_name_of_mem {names : List String} {values : List Json}
    (length : values.length ≤ names.length) {value : Json} (mem : value ∈ values) :
    ∃ name, (name, value) ∈ names.zip values := by
  rw [← List.map_snd_zip length] at mem
  rcases List.mem_map.mp mem with ⟨⟨name, _⟩, there, rfl⟩
  exact ⟨name, there⟩

theorem distinct_values {naming : FieldName → String} {members : List (String × Json)}
    {values : List Json} (distinct : (Json.object members).DistinctKeys)
    (length : values.length = citationLabels.length)
    (perm : members.Perm ((citationLabels.map naming).zip values)) :
    (Json.array values).DistinctKeys := by
  apply Json.distinctKeys_array.mpr
  intro value mem
  have enough : values.length ≤ (citationLabels.map naming).length := by simp [length]
  rcases exists_name_of_mem enough mem with ⟨name, there⟩
  exact distinct_of_perm distinct perm there

theorem reads_of_ofJson {shape : Shape} {value : Json} {tree : Tree shape}
    (distinct : value.DistinctKeys) (readTree : Tree.ofJson shape value = .valid tree) :
    Reads value tree := by
  induction tree generalizing value with
  | text text =>
      rw [ofJson_text] at readTree
      simp only [Checked.map_eq_valid, readText_eq_valid, Tree.text.injEq,
        exists_eq_right] at readTree
      exact readTree ▸ .text text
  | integer number =>
      rw [ofJson_integer] at readTree
      simp only [Checked.map_eq_valid, readInteger_eq_valid, Tree.integer.injEq,
        exists_eq_right] at readTree
      exact readTree ▸ .integer number
  | attributes attributes =>
      rw [ofJson_attributes] at readTree
      simp only [Checked.map_eq_valid, attributes_ofJson_eq_valid, Tree.attributes.injEq,
        exists_eq_right] at readTree
      exact .attributes readTree
  | width width =>
      rw [ofJson_width] at readTree
      simp only [Checked.map_eq_valid, Tree.width.injEq, exists_eq_right] at readTree
      cases value with
      | object members =>
          exact .width
            ((width_ofJson_eq_valid (Json.distinctKeys_object.mp distinct).1).mp readTree)
      | _ => cases readTree
  | tag tag =>
      rw [ofJson_tag] at readTree
      simp only [Checked.map_eq_valid, tag_ofJson_eq_valid distinct, Tree.tag.injEq,
        exists_eq_right] at readTree
      exact readTree ▸ .tag tag
  | nothing => exact .nothing value
  | node kind payload ih =>
      rcases (ofJson_node distinct).mp readTree with ⟨fits, members, inner, rfl, perm, readInner⟩
      rcases distinct_payload distinct perm with bare | distinctInner
      · exact .node fits perm (reads_of_nothing bare inner payload)
      · exact .node fits perm (ih distinctInner readInner)
  | citation fields ih =>
      rcases (ofJson_citation distinct).mp readTree with
        ⟨naming, members, values, names, rfl, perm, valuesRead⟩
      have length : values.length = citationLabels.length := length_of_ofJson_tuple valuesRead
      exact .citation names perm (ih (distinct_values distinct length perm) valuesRead)
  | nil => exact ofJson_nil.mp readTree ▸ .nil
  | cons first others ihFirst ihOthers =>
      rcases ofJson_cons.mp readTree with ⟨head, tail, rfl, readFirst, readOthers⟩
      rcases List.forall_mem_cons.mp (Json.distinctKeys_array.mp distinct) with ⟨here, there⟩
      exact .cons (ihFirst here readFirst)
        (ihOthers (Json.distinctKeys_array.mpr there) readOthers)
  | absent => exact ofJson_absent.mp readTree ▸ .absent
  | present tree ih =>
      rcases ofJson_present.mp readTree with ⟨notNull, readInner⟩
      exact .present notNull (ih distinct readInner)
  | done => exact ofJson_done.mp readTree ▸ .done
  | field first others ihFirst ihOthers =>
      rcases ofJson_field.mp readTree with ⟨head, tail, rfl, readFirst, readOthers⟩
      rcases List.forall_mem_cons.mp (Json.distinctKeys_array.mp distinct) with ⟨here, there⟩
      exact .field (ihFirst here readFirst)
        (ihOthers (Json.distinctKeys_array.mpr there) readOthers)

/-- A tuple is read from as many values. -/
theorem Reads.length_tuple {shapes : List Shape} {values : List Json} {tree : Tree (.tuple shapes)}
    (reads : Reads (.array values) tree) : values.length = shapes.length := by
  induction shapes generalizing values with
  | nil =>
      cases reads
      rfl
  | cons shape shapes ih =>
      cases reads with
      | field head tail => rw [List.length_cons, List.length_cons, ih tail]

theorem ofJson_of_reads {shape : Shape} {value : Json} {tree : Tree shape}
    (distinct : value.DistinctKeys) (reads : Reads value tree) :
    Tree.ofJson shape value = .valid tree := by
  induction reads with
  | text text => rfl
  | integer number => rfl
  | attributes given =>
      rw [ofJson_attributes, attributes_ofJson_eq_valid.mpr given]
      rfl
  | width perm =>
      have distinctMembers := (Json.distinctKeys_object.mp distinct).1
      rw [ofJson_width, (width_ofJson_eq_valid distinctMembers).mpr perm]
      rfl
  | tag tag =>
      rw [ofJson_tag, (tag_ofJson_eq_valid distinct).mpr rfl]
      rfl
  | nothing value => exact ofJson_nothing value
  | node fits perm inner ih =>
      rcases distinct_payload distinct perm with bare | distinctInner
      · exact (ofJson_node distinct).mpr ⟨fits, _, _, rfl, perm, ofJson_of_nothing bare _ _⟩
      · exact (ofJson_node distinct).mpr ⟨fits, _, _, rfl, perm, ih distinctInner⟩
  | citation names perm inner ih =>
      have length := inner.length_tuple
      exact (ofJson_citation distinct).mpr
        ⟨_, _, _, names, rfl, perm, ih (distinct_values distinct length perm)⟩
  | nil => rfl
  | cons head tail ihHead ihTail =>
      rcases List.forall_mem_cons.mp (Json.distinctKeys_array.mp distinct) with ⟨here, there⟩
      exact ofJson_cons.mpr
        ⟨_, _, rfl, ihHead here, ihTail (Json.distinctKeys_array.mpr there)⟩
  | absent => rfl
  | present notNull inner ih => exact ofJson_present.mpr ⟨notNull, ih distinct⟩
  | done => rfl
  | field head tail ihHead ihTail =>
      rcases List.forall_mem_cons.mp (Json.distinctKeys_array.mp distinct) with ⟨here, there⟩
      exact ofJson_field.mpr
        ⟨_, _, rfl, ihHead here, ihTail (Json.distinctKeys_array.mpr there)⟩

/-- Reading gives a tree exactly if the value is read as that tree. -/
theorem ofJson_eq_valid_iff {shape : Shape} {value : Json} {tree : Tree shape}
    (distinct : value.DistinctKeys) : Tree.ofJson shape value = .valid tree ↔ Reads value tree :=
  ⟨reads_of_ofJson distinct, ofJson_of_reads distinct⟩

abbrev documentLabels : List FieldName :=
  [versionField, metadataField, blocksField]

/-- What is read as which blocks, one by one. -/
inductive ReadsBlocks : List Json → List Block → Prop where
  | nil : ReadsBlocks [] []
  | cons {value : Json} {values : List Json} {block : Block} {blocks : List Block}
      (head : Reads value block) (tail : ReadsBlocks values blocks) :
      ReadsBlocks (value :: values) (block :: blocks)

/-- What is read as which document. -/
inductive ReadsDocument : Json → Document → Prop where
  | mk {naming : FieldName → String} {members : List (String × Json)} {values : List Json}
      {document : Document} (names : Naming documentLabels naming)
      (perm : members.Perm ((documentLabels.map naming).zip
        [.array (document.version.map .integer), .object document.metadata, .array values]))
      (blocks : ReadsBlocks values document.blocks) : ReadsDocument (.object members) document

theorem documentLabels_apart : documentLabels.Pairwise FieldName.Apart := by
  decide

theorem readMetadata_eq_valid {value : Json} {metadata : List (String × Json)} :
    readMetadata value = .valid metadata ↔ value = .object metadata := by
  cases value <;> simp [readMetadata]

theorem readAll_eq_valid_iff {values : List Json} {blocks : List Block}
    (distinct : (Json.array values).DistinctKeys) :
    readAll (Tree.ofJson (.node .block)) values = .valid blocks ↔ ReadsBlocks values blocks := by
  rw [Json.distinctKeys_array] at distinct
  induction values generalizing blocks with
  | nil =>
      constructor
      · intro allRead
        cases allRead
        exact .nil
      · intro reads
        cases reads
        rfl
  | cons value values ih =>
      rcases List.forall_mem_cons.mp distinct with ⟨here, there⟩
      simp only [readAll, Checked.both_eq_valid, ih there, ofJson_eq_valid_iff here]
      constructor
      · rintro ⟨block, blocks, head, tail, rfl⟩
        exact .cons head tail
      · rintro (_ | ⟨head, tail⟩)
        exact ⟨_, _, head, tail, rfl⟩

theorem distinct_blocks {naming : FieldName → String} {members : List (String × Json)}
    {version metadata blocks : Json} (distinct : (Json.object members).DistinctKeys)
    (perm : members.Perm ((documentLabels.map naming).zip [version, metadata, blocks])) :
    blocks.DistinctKeys := by
  have held : (naming blocksField, blocks) ∈
      (documentLabels.map naming).zip [version, metadata, blocks] → blocks.DistinctKeys :=
    distinct_of_perm distinct perm
  apply held
  simp

/-- Reading gives a document exactly if the value is read as that document. -/
theorem document_ofJson_eq_valid_iff {value : Json} {document : Document}
    (distinct : value.DistinctKeys) :
    Document.ofJson value = .valid document ↔ ReadsDocument value document := by
  constructor
  · intro read
    cases value with
    | object members =>
        have distinctMembers := (Json.distinctKeys_object.mp distinct).1
        simp only [Document.ofJson, Checked.also_eq_valid, Checked.both_eq_valid, require_eq_valid,
          readArray_eq_valid readInteger_eq_valid, readMetadata_eq_valid,
          unknownFields_eq_nil] at read
        rcases read with ⟨⟨_, blocks, ⟨version, metadata, ⟨_, hasVersion, rfl⟩,
          ⟨_, hasMetadata, rfl⟩, rfl⟩, ⟨given, hasBlocks, readBlocks⟩, rfl⟩, known⟩
        cases given with
        | array values =>
            have found : documentLabels.map (fun label => label.find? members) =
                [Json.array (version.map .integer), .object metadata, .array values].map some := by
              simp only [List.map_cons, List.map_nil, hasVersion, hasMetadata, hasBlocks]
            rcases (record_iff documentLabels_apart distinctMembers).mp ⟨found, known⟩ with
              ⟨naming, names, -, perm⟩
            exact .mk names perm
              ((readAll_eq_valid_iff (distinct_blocks distinct perm)).mp readBlocks)
        | _ => simp [readArray] at readBlocks
    | _ => simp [Document.ofJson] at read
  · rintro ⟨names, perm, blocks⟩
    have distinctMembers := (Json.distinctKeys_object.mp distinct).1
    rcases (record_iff documentLabels_apart distinctMembers).mpr ⟨_, names, rfl, perm⟩ with
      ⟨found, known⟩
    simp only [List.map_cons, List.map_nil, List.cons.injEq, and_true] at found
    rcases found with ⟨hasVersion, hasMetadata, hasBlocks⟩
    have readBlocks := (readAll_eq_valid_iff (distinct_blocks distinct perm)).mpr blocks
    simp only [Document.ofJson, Checked.also_eq_valid, Checked.both_eq_valid, require_eq_valid,
      readArray_eq_valid readInteger_eq_valid, readMetadata_eq_valid, unknownFields_eq_nil]
    exact ⟨⟨_, _, ⟨_, _, ⟨_, hasVersion, rfl⟩, ⟨_, hasMetadata, rfl⟩, rfl⟩,
      ⟨_, hasBlocks, readBlocks⟩, rfl⟩, known⟩

end DocHighlight.Document
