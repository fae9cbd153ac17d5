import DocHighlight.Filter
import DocHighlight.Proofs.Document.Codec

/-!
# Documents as bytes and as characters

A document can be handed in as characters or as the bytes that spell them, with the same result.
Other bytes are refused before anything is read from them, and nothing is reported. What is written
is always the bytes of a text. A document that is too deep is not written at all; whatever has been
decoded is not too deep, but a document that is built in another way may be.
-/

namespace DocHighlight.Document

/-- What is received, and what is reported on the way. -/
theorem run_receive (input : Input) :
    (receive input).run =
      match decode input with
      | .ok document =>
          ⟨.ok document, [.decoded document.blocks.length document.version]⟩
      | .error problem => ⟨.error problem, []⟩ := by
  rw [receive]
  cases decode input <;> rfl

theorem decodeBytes_encode (text : List Char) :
    decodeBytes (Text.Utf8.encode text) = decodeText text := by
  rw [decodeBytes, Text.Utf8.decode_encode]

/-- The fault of a text is never one of its bytes. -/
theorem decodeText_ne_bytes (text : List Char) (cause : Text.Utf8.Malformed) :
    decodeText text ≠ .error (.bytes cause) := by
  rw [decodeText]
  intro refused
  split at refused
  · cases refused
  · split at refused <;> cases refused

/-- Bytes are refused for what they are exactly if they spell no text. -/
theorem exists_decodeBytes_eq_error_iff {bytes : List UInt8} :
    (∃ cause, decodeBytes bytes = .error (.bytes cause)) ↔ ¬ bytes.toByteArray.IsValidUTF8 := by
  rw [Text.Utf8.isValidUTF8_iff]
  constructor
  · rintro ⟨cause, refused⟩ ⟨text, rfl⟩
    rw [decodeBytes_encode] at refused
    exact decodeText_ne_bytes text cause refused
  · intro noText
    rw [decodeBytes]
    cases read : Text.Utf8.decode bytes with
    | ok text => exact absurd ⟨text, Text.Utf8.decode_eq_ok_iff.mp read⟩ noText
    | error cause => exact ⟨cause, rfl⟩

theorem receive_toUTF8 (text : String) :
    receive (.bytes text.toUTF8.data.toList) = receive (.characters text.toList) := by
  have same : decode (.bytes text.toUTF8.data.toList) = decode (.characters text.toList) := by
    rw [← Text.Utf8.encode_toList]
    exact decodeBytes_encode text.toList
  rw [receive, receive, same]

/-- Bytes that spell no text are refused because of that, with nothing reported. -/
theorem not_isValidUTF8_iff (bytes : List UInt8) :
    ¬ bytes.toByteArray.IsValidUTF8 ↔
      ∃ cause, (receive (.bytes bytes)).run = ⟨.error (.bytes cause), []⟩ ∧
        (MalformedInput.bytes cause).message = "Input is not valid UTF-8: " ++ cause.message := by
  rw [← exists_decodeBytes_eq_error_iff]
  apply exists_congr
  intro cause
  have told : (MalformedInput.bytes cause).message =
      "Input is not valid UTF-8: " ++ cause.message := by
    rfl
  rw [run_receive, decode, and_iff_left told]
  cases decodeBytes bytes with
  | ok document => simp
  | error problem => simp

theorem encode_eq (document : Document) :
    document.encode = (String.ofList document.encodeText).toUTF8.data.toList := by
  rw [← Text.Utf8.encode_toList, String.toList_ofList, encode]

/-- A document is encoded, as the bytes of a text, exactly if it is not too deep. -/
theorem exists_encodeText?_iff (document : Document) :
    (∃ written, document.encodeText? = .ok written ∧
        (Text.Utf8.encode written).toByteArray.IsValidUTF8) ↔
      Shallow document := by
  constructor
  · rintro ⟨written, encoded, -⟩
    by_cases shallow : Shallow document
    · exact shallow
    · rw [encodeText?_of_not_shallow shallow] at encoded
      cases encoded
  · intro shallow
    exact ⟨_, encodeText?_of_shallow shallow, Text.Utf8.isValidUTF8_encode _⟩

/-- The bytes of a text are received as the text is. Bytes that spell no text are refused because of
that, with nothing reported, and no other bytes are refused because of that. A document is encoded,
as the bytes of a text, exactly if it is not too deep, as whatever has been decoded. -/
theorem receive_bytes (text : String) (bytes : List UInt8) (document : Document) :
    receive (.bytes text.toUTF8.data.toList) = receive (.characters text.toList) ∧
      (¬ bytes.toByteArray.IsValidUTF8 ↔
        ∃ cause, (receive (.bytes bytes)).run = ⟨.error (.bytes cause), []⟩ ∧
          (MalformedInput.bytes cause).message = "Input is not valid UTF-8: " ++ cause.message) ∧
      ((∃ written, document.encodeText? = .ok written ∧
          (Text.Utf8.encode written).toByteArray.IsValidUTF8) ↔
        Shallow document) ∧
      (Shallow document →
        document.encodeText? = .ok document.encodeText ∧
          document.encode.toByteArray.IsValidUTF8 ∧
          document.encode = (String.ofList document.encodeText).toUTF8.data.toList) ∧
      (¬ Shallow document → document.encodeText? = .error .tooDeep) ∧
      ∀ input, decode input = .ok document → Shallow document := by
  refine ⟨receive_toUTF8 text, not_isValidUTF8_iff bytes, exists_encodeText?_iff document, ?_, ?_,
    ?_⟩
  · intro shallow
    exact ⟨encodeText?_of_shallow shallow, Text.Utf8.isValidUTF8_encode _, encode_eq document⟩
  · intro deep
    exact encodeText?_of_not_shallow deep
  · intro input decoded
    exact .of_decode decoded

/-- The bytes of a whole document. -/
def wholeBytes : List UInt8 :=
  encode ⟨[1, 23], [], []⟩

/-- The bytes of a whole document are received, and what is received can be written. With one more
byte, which begins no character, nothing is received. -/
theorem receive_bytes_whole :
    (∃ document, decode (.bytes wholeBytes) = .ok document ∧ Shallow document ∧
      document.encodeText? = .ok document.encodeText ∧
      document.encode.toByteArray.IsValidUTF8) ∧
    ¬ (wholeBytes ++ [0x80]).toByteArray.IsValidUTF8 ∧
      ∃ cause, (receive (.bytes (wholeBytes ++ [0x80]))).run = ⟨.error (.bytes cause), []⟩ := by
  constructor
  · have accepted : (decode (.bytes wholeBytes)).isOk = true := by
      decide +kernel
    cases decoded : decode (.bytes wholeBytes) with
    | ok document =>
        rcases receive_bytes "" wholeBytes document with ⟨-, -, -, encodes, -, shallow⟩
        have written := encodes (shallow _ decoded)
        exact ⟨document, rfl, shallow _ decoded, written.1, written.2.1⟩
    | error problem =>
        rw [decoded] at accepted
        cases accepted
  · have notValid : ¬ (wholeBytes ++ [0x80]).toByteArray.IsValidUTF8 := by
      rw [Text.Utf8.isValidUTF8_iff]
      rintro ⟨text, spelled⟩
      have refused : (Text.Utf8.decode (wholeBytes ++ [0x80])).isOk = false := by
        decide +kernel
      rw [Text.Utf8.decode_eq_ok_iff.mpr spelled] at refused
      cases refused
    rcases receive_bytes "" (wholeBytes ++ [0x80]) ⟨[1, 23], [], []⟩ with ⟨-, refuses, -⟩
    rcases refuses.mp notValid with ⟨cause, received, -⟩
    exact ⟨notValid, cause, received⟩

/-- Block quotes in one another, around a rule. -/
def quotes : Nat → Block
  | 0 => .node .horizontalRule .nothing
  | depth + 1 => .node .blockQuote (.cons (quotes depth) .nil)

theorem wellPlaced_quotes (depth : Nat) : (quotes depth).wellPlaced = true := by
  induction depth with
  | zero => rfl
  | succ depth ih =>
      have fits : NodeKind.blockQuote.fits .block = true := by
        decide
      simp only [quotes, Tree.wellPlaced, fits, ih, Bool.and_self]

theorem height_quotes (depth : Nat) : (quotes depth).toJson.height = 2 * depth + 2 := by
  induction depth with
  | zero => rfl
  | succ depth ih =>
      have written : (quotes (depth + 1)).toJson =
          .object [("t", .string "BlockQuote"), ("c", .array [(quotes depth).toJson])] := by
        rfl
      simp only [written, Json.height, Json.heightOfMembers, Json.heightOfElements, ih]
      omega

/-- A document with so many block quotes in one another is not encoded, though each of them is in
its place. -/
theorem quotes_not_encoded :
    encodeText? ⟨[1, 23], [], [quotes 127]⟩ = .error .tooDeep ∧
      ¬ ∀ document : Document, (∀ block ∈ document.blocks, block.wellPlaced = true) →
        ∃ text, document.encodeText? = .ok text ∧
          (Text.Utf8.encode text).toByteArray.IsValidUTF8 := by
  have placed : ∀ block ∈ [quotes 127], block.wellPlaced = true :=
    List.forall_mem_singleton.mpr (wellPlaced_quotes 127)
  have refused : encodeText? ⟨[1, 23], [], [quotes 127]⟩ = .error .tooDeep := by
    apply encodeText?_of_not_shallow
    rintro ⟨-, blocks⟩
    have within := blocks (quotes 127) (List.mem_singleton_self _)
    rw [levels_eq_height (wellPlaced_quotes 127), height_quotes, levelLimit] at within
    omega
  refine ⟨refused, ?_⟩
  intro all
  rcases all ⟨[1, 23], [], [quotes 127]⟩ placed with ⟨text, written, -⟩
  rw [refused] at written
  cases written

end DocHighlight.Document
