import DocHighlight.Text.Utf8

/-!
# Text through UTF-8 and back

Reading the bytes of a text gives the text. A character takes one to four bytes, and for each of the
four lengths the reader goes from between two characters through the bytes of this one to between
two characters again, whatever bytes come next. The special ranges of the byte after `E0`, `ED`,
`F0` and `F4` lose nothing: the forms they keep out are too long, stand for a surrogate, or stand
for nothing.

Conversely, no other bytes are read as a text. Where the reader gets from one place between two
characters to the next, the bytes on its way are those of a character, for by the same ranges the
bits that they hold belong to a character that takes so many bytes.
-/

namespace DocHighlight.Text.Utf8

theorem toNat_ofNat {n : Nat} (small : n < 256) : (UInt8.ofNat n).toNat = n := by
  rw [UInt8.toNat_ofNat']
  exact Nat.mod_eq_of_lt small

/-- The last byte of a character completes it. -/
theorem decodeFrom_last {position length bits n : Nat} {first low high : UInt8} {rest : List UInt8}
    (above : low.toNat ≤ n) (below : n ≤ high.toNat) :
    decodeFrom position (.inside first length ⟨bits, low, high, 0⟩) (UInt8.ofNat n :: rest) =
      (decodeFrom (position + length + 1) .between rest).map
        (Char.ofNat (bits * 64 + (n - 0x80)) :: ·) := by
  have byte : (UInt8.ofNat n).toNat = n := toNat_ofNat (Nat.lt_of_le_of_lt below high.toNat_lt)
  simp [decodeFrom, UInt8.le_iff_toNat_le, byte, above, below]

/-- A byte in the midst of a character adds its bits. -/
theorem decodeFrom_further {position length bits further n : Nat} {first low high : UInt8}
    {rest : List UInt8} (above : low.toNat ≤ n) (below : n ≤ high.toNat) :
    decodeFrom position (.inside first length ⟨bits, low, high, further + 1⟩)
        (UInt8.ofNat n :: rest) =
      decodeFrom position
        (.inside first (length + 1) ⟨bits * 64 + (n - 0x80), 0x80, 0xBF, further⟩) rest := by
  have byte : (UInt8.ofNat n).toNat = n := toNat_ofNat (Nat.lt_of_le_of_lt below high.toNat_lt)
  simp [decodeFrom, UInt8.le_iff_toNat_le, byte, above, below]

/-- A lead byte opens a character. -/
theorem decodeFrom_open {position : Nat} {byte : UInt8} {pending : Pending} {rest : List UInt8}
    (opens : lead byte = .open pending) :
    decodeFrom position .between (byte :: rest) =
      decodeFrom position (.inside byte 1 pending) rest := by
  simp only [decodeFrom, opens]

theorem lead_one {n : Nat} (below : n < 0x80) :
    lead (UInt8.ofNat n) = .complete (Char.ofNat n) := by
  have byte : (UInt8.ofNat n).toNat = n := toNat_ofNat (by omega)
  simp [lead, UInt8.lt_iff_toNat_lt, byte, below]

theorem lead_two {n : Nat} (above : 0xC2 ≤ n) (below : n < 0xE0) :
    lead (UInt8.ofNat n) = .open ⟨n - 0xC0, 0x80, 0xBF, 0⟩ := by
  have byte : (UInt8.ofNat n).toNat = n := toNat_ofNat (by omega)
  have notOne : ¬n < 128 := by omega
  have notInvalid : ¬n < 194 := by omega
  simp [lead, UInt8.lt_iff_toNat_lt, byte, below, notOne, notInvalid]

theorem lead_three {n : Nat} (above : 0xE0 ≤ n) (below : n < 0xF0) :
    lead (UInt8.ofNat n) =
      .open ⟨n - 0xE0, if n = 0xE0 then 0xA0 else 0x80, if n = 0xED then 0x9F else 0xBF, 1⟩ := by
  have byte : (UInt8.ofNat n).toNat = n := toNat_ofNat (by omega)
  have notOne : ¬n < 128 := by omega
  have notInvalid : ¬n < 194 := by omega
  have notTwo : ¬n < 224 := by omega
  simp [lead, UInt8.lt_iff_toNat_lt, ← UInt8.toNat_inj, byte, below, notOne, notInvalid, notTwo]

theorem lead_four {n : Nat} (above : 0xF0 ≤ n) (below : n < 0xF5) :
    lead (UInt8.ofNat n) =
      .open ⟨n - 0xF0, if n = 0xF0 then 0x90 else 0x80, if n = 0xF4 then 0x8F else 0xBF, 2⟩ := by
  have byte : (UInt8.ofNat n).toNat = n := toNat_ofNat (by omega)
  have notOne : ¬n < 128 := by omega
  have notInvalid : ¬n < 194 := by omega
  have notTwo : ¬n < 224 := by omega
  have notThree : ¬n < 240 := by omega
  simp [lead, UInt8.lt_iff_toNat_lt, ← UInt8.toNat_inj, byte, below, notOne, notInvalid, notTwo,
    notThree]

section Character

variable {position n : Nat} {rest : List UInt8}

theorem decodeFrom_one (below : n < 0x80) :
    decodeFrom position .between (UInt8.ofNat n :: rest) =
      (decodeFrom (position + 1) .between rest).map (Char.ofNat n :: ·) := by
  simp only [decodeFrom, lead_one below]

theorem decodeFrom_two (above : 0x80 ≤ n) (below : n < 0x800) :
    decodeFrom position .between
        (UInt8.ofNat (n / 64 % 0x20 + 0xC0) :: UInt8.ofNat (n % 0x40 + 0x80) :: rest) =
      (decodeFrom (position + 2) .between rest).map (Char.ofNat n :: ·) := by
  have value : (n / 64 % 0x20 + 0xC0 - 0xC0) * 64 + (n % 0x40 + 0x80 - 0x80) = n := by omega
  rw [decodeFrom_open (lead_two (by omega) (by omega)), decodeFrom_last (by simp) (by simp; omega),
    value]

theorem decodeFrom_three (above : 0x800 ≤ n) (below : n < 0x10000)
    (scalar : ¬(0xD800 ≤ n ∧ n ≤ 0xDFFF)) :
    decodeFrom position .between
        (UInt8.ofNat (n / 4096 % 0x10 + 0xE0) :: UInt8.ofNat (n / 64 % 0x40 + 0x80) ::
          UInt8.ofNat (n % 0x40 + 0x80) :: rest) =
      (decodeFrom (position + 3) .between rest).map (Char.ofNat n :: ·) := by
  have value : (n / 4096 % 0x10 + 0xE0 - 0xE0) * 64 + (n / 64 % 0x40 + 0x80 - 0x80) = n / 64 := by
    omega
  have whole : n / 64 * 64 + (n % 0x40 + 0x80 - 0x80) = n := by omega
  rw [decodeFrom_open (lead_three (by omega) (by omega)),
    decodeFrom_further (by split <;> simp; omega) (by split <;> simp <;> omega), value,
    decodeFrom_last (by simp) (by simp; omega), whole]

theorem decodeFrom_four (above : 0x10000 ≤ n) (below : n < 0x110000) :
    decodeFrom position .between
        (UInt8.ofNat (n / 262144 % 0x08 + 0xF0) :: UInt8.ofNat (n / 4096 % 0x40 + 0x80) ::
          UInt8.ofNat (n / 64 % 0x40 + 0x80) :: UInt8.ofNat (n % 0x40 + 0x80) :: rest) =
      (decodeFrom (position + 4) .between rest).map (Char.ofNat n :: ·) := by
  have value : (n / 262144 % 0x08 + 0xF0 - 0xF0) * 64 + (n / 4096 % 0x40 + 0x80 - 0x80) =
      n / 4096 := by omega
  have more : n / 4096 * 64 + (n / 64 % 0x40 + 0x80 - 0x80) = n / 64 := by omega
  have whole : n / 64 * 64 + (n % 0x40 + 0x80 - 0x80) = n := by omega
  rw [decodeFrom_open (lead_four (by omega) (by omega)),
    decodeFrom_further (by split <;> simp; omega) (by split <;> simp <;> omega), value,
    decodeFrom_further (by simp) (by simp; omega), more,
    decodeFrom_last (by simp) (by simp; omega), whole]

end Character

/-- The bytes of a character are read as that character. -/
theorem decodeFrom_utf8EncodeChar (position : Nat) (c : Char) (rest : List UInt8) :
    decodeFrom position .between (String.utf8EncodeChar c ++ rest) =
      (decodeFrom (position + (String.utf8EncodeChar c).length) .between rest).map (c :: ·) := by
  have same : Char.ofNat c.val.toNat = c := Char.ofNat_toNat c
  have valid : c.val.toNat < 0xD800 ∨ 0xDFFF < c.val.toNat ∧ c.val.toNat < 0x110000 := c.valid
  rw [String.utf8EncodeChar]
  generalize c.val.toNat = n at same valid
  subst same
  split
  · exact decodeFrom_one (by omega)
  split
  · exact decodeFrom_two (by omega) (by omega)
  split
  · exact decodeFrom_three (by omega) (by omega) (by omega)
  · exact decodeFrom_four (by omega) (by omega)

theorem decode_encode (text : List Char) : decode (encode text) = .ok text := by
  have whole : ∀ position, decodeFrom position .between (encode text) = .ok text := by
    induction text with
    | nil => intro position; rfl
    | cons c text ih =>
        intro position
        rw [encode, List.flatMap_cons, decodeFrom_utf8EncodeChar]
        exact congrArg (Except.map (c :: ·)) (ih _)
  exact whole 0

/-- Inside a character the reader goes on only with a byte in the range that is due. -/
theorem exists_next {position length : Nat} {first : UInt8} {pending : Pending}
    {bytes : List UInt8} {text : List Char}
    (read : decodeFrom position (.inside first length pending) bytes = .ok text) :
    ∃ n rest, bytes = UInt8.ofNat n :: rest ∧ pending.low.toNat ≤ n ∧ n ≤ pending.high.toNat := by
  cases bytes with
  | nil => cases read
  | cons byte rest =>
      rw [decodeFrom] at read
      split at read
      · rename_i within
        rw [Bool.and_eq_true, decide_eq_true_eq, decide_eq_true_eq] at within
        exact ⟨byte.toNat, rest, by rw [UInt8.ofNat_toNat], within.1, within.2⟩
      · cases read

/-- What a byte can be from which the reader goes on. -/
theorem lead_cases (byte : UInt8) :
    lead byte = .invalid ∨ ∃ n, byte = UInt8.ofNat n ∧
      (n < 0x80 ∨ (0xC2 ≤ n ∧ n < 0xE0) ∨ (0xE0 ≤ n ∧ n < 0xF0) ∨ (0xF0 ≤ n ∧ n < 0xF5)) := by
  by_cases one : byte.toNat < 0x80
  · exact .inr ⟨byte.toNat, by rw [UInt8.ofNat_toNat], .inl one⟩
  by_cases later : byte.toNat < 0xC2
  · left
    simp [lead, UInt8.lt_iff_toNat_lt, one, later]
  by_cases four : byte.toNat < 0xF5
  · exact .inr ⟨byte.toNat, by rw [UInt8.ofNat_toNat], by omega⟩
  · left
    have notTwo : ¬byte.toNat < 0xE0 := by omega
    have notThree : ¬byte.toNat < 0xF0 := by omega
    simp [lead, UInt8.lt_iff_toNat_lt, one, later, notTwo, notThree, four]

section Character

variable {n : Nat}

theorem utf8EncodeChar_ofNat (scalar : n < 0xD800 ∨ 0xDFFF < n ∧ n < 0x110000) :
    String.utf8EncodeChar (Char.ofNat n) =
      if n ≤ 0x7F then [UInt8.ofNat n]
      else if n ≤ 0x7FF then [UInt8.ofNat (n / 64 % 32 + 0xC0), UInt8.ofNat (n % 64 + 0x80)]
      else if n ≤ 0xFFFF then
        [UInt8.ofNat (n / 4096 % 16 + 0xE0), UInt8.ofNat (n / 64 % 64 + 0x80),
          UInt8.ofNat (n % 64 + 0x80)]
      else
        [UInt8.ofNat (n / 262144 % 8 + 0xF0), UInt8.ofNat (n / 4096 % 64 + 0x80),
          UInt8.ofNat (n / 64 % 64 + 0x80), UInt8.ofNat (n % 64 + 0x80)] := by
  have value : (Char.ofNat n).val.toNat = n := by
    rw [Char.ofNat, dif_pos scalar]
    rfl
  rw [String.utf8EncodeChar, value]

variable {a b c d : Nat}

/-- Two bytes with the ranges of such a character are the bytes of one. -/
theorem exists_two (lead : 0xC2 ≤ a ∧ a < 0xE0) (last : 0x80 ≤ b ∧ b ≤ 0xBF) :
    ∃ char, String.utf8EncodeChar char = [UInt8.ofNat a, UInt8.ofNat b] := by
  refine ⟨Char.ofNat ((a - 0xC0) * 64 + (b - 0x80)), ?_⟩
  generalize value : (a - 0xC0) * 64 + (b - 0x80) = n
  have firstByte : n / 64 % 32 + 0xC0 = a := by omega
  have lastByte : n % 64 + 0x80 = b := by omega
  rw [utf8EncodeChar_ofNat (by omega), if_neg (by omega), if_pos (by omega), firstByte, lastByte]

section Range

variable {p : Prop} [Decidable p] {x y : UInt8}

theorem toNat_ite_le_iff :
    (if p then x else y).toNat ≤ b ↔ (p → x.toNat ≤ b) ∧ (¬p → y.toNat ≤ b) := by
  split <;> simp [*]

theorem le_toNat_ite_iff :
    b ≤ (if p then x else y).toNat ↔ (p → b ≤ x.toNat) ∧ (¬p → b ≤ y.toNat) := by
  split <;> simp [*]

end Range

theorem exists_three (lead : 0xE0 ≤ a ∧ a < 0xF0)
    (second : (if a = 0xE0 then 0xA0 else 0x80 : UInt8).toNat ≤ b ∧
      b ≤ (if a = 0xED then 0x9F else 0xBF : UInt8).toNat)
    (last : 0x80 ≤ c ∧ c ≤ 0xBF) :
    ∃ char, String.utf8EncodeChar char = [UInt8.ofNat a, UInt8.ofNat b, UInt8.ofNat c] := by
  simp only [toNat_ite_le_iff, le_toNat_ite_iff, UInt8.reduceToNat] at second
  refine ⟨Char.ofNat (((a - 0xE0) * 64 + (b - 0x80)) * 64 + (c - 0x80)), ?_⟩
  generalize value : ((a - 0xE0) * 64 + (b - 0x80)) * 64 + (c - 0x80) = n
  have firstByte : n / 4096 % 16 + 0xE0 = a := by omega
  have secondByte : n / 64 % 64 + 0x80 = b := by omega
  have lastByte : n % 64 + 0x80 = c := by omega
  rw [utf8EncodeChar_ofNat (by omega), if_neg (by omega), if_neg (by omega), if_pos (by omega),
    firstByte, secondByte, lastByte]

theorem exists_four (lead : 0xF0 ≤ a ∧ a < 0xF5)
    (second : (if a = 0xF0 then 0x90 else 0x80 : UInt8).toNat ≤ b ∧
      b ≤ (if a = 0xF4 then 0x8F else 0xBF : UInt8).toNat)
    (third : 0x80 ≤ c ∧ c ≤ 0xBF) (last : 0x80 ≤ d ∧ d ≤ 0xBF) :
    ∃ char, String.utf8EncodeChar char =
      [UInt8.ofNat a, UInt8.ofNat b, UInt8.ofNat c, UInt8.ofNat d] := by
  simp only [toNat_ite_le_iff, le_toNat_ite_iff, UInt8.reduceToNat] at second
  refine ⟨Char.ofNat ((((a - 0xF0) * 64 + (b - 0x80)) * 64 + (c - 0x80)) * 64 + (d - 0x80)), ?_⟩
  generalize value : (((a - 0xF0) * 64 + (b - 0x80)) * 64 + (c - 0x80)) * 64 + (d - 0x80) = n
  have firstByte : n / 262144 % 8 + 0xF0 = a := by omega
  have secondByte : n / 4096 % 64 + 0x80 = b := by omega
  have thirdByte : n / 64 % 64 + 0x80 = c := by omega
  have lastByte : n % 64 + 0x80 = d := by omega
  rw [utf8EncodeChar_ofNat (by omega), if_neg (by omega), if_neg (by omega), if_neg (by omega),
    firstByte, secondByte, thirdByte, lastByte]

end Character

/-- Between two characters the reader goes on only with the bytes of a character. -/
theorem exists_utf8EncodeChar {position : Nat} {byte : UInt8} {rest : List UInt8}
    {text : List Char} (read : decodeFrom position .between (byte :: rest) = .ok text) :
    ∃ c tail, byte :: rest = String.utf8EncodeChar c ++ tail := by
  rcases lead_cases byte with invalid | ⟨a, rfl, one | two | three | four⟩
  · simp [decodeFrom, invalid] at read
  · refine ⟨Char.ofNat a, rest, ?_⟩
    rw [utf8EncodeChar_ofNat (by omega), if_pos (by omega)]
    rfl
  · rw [decodeFrom_open (lead_two two.1 two.2)] at read
    rcases exists_next read with ⟨b, tail, rfl, last⟩
    rcases exists_two two last with ⟨c, bytes⟩
    exact ⟨c, tail, by rw [bytes]; rfl⟩
  · rw [decodeFrom_open (lead_three three.1 three.2)] at read
    rcases exists_next read with ⟨b, rest, rfl, second⟩
    rw [decodeFrom_further second.1 second.2] at read
    rcases exists_next read with ⟨c, tail, rfl, last⟩
    rcases exists_three three second last with ⟨c, bytes⟩
    exact ⟨c, tail, by rw [bytes]; rfl⟩
  · rw [decodeFrom_open (lead_four four.1 four.2)] at read
    rcases exists_next read with ⟨b, rest, rfl, second⟩
    rw [decodeFrom_further second.1 second.2] at read
    rcases exists_next read with ⟨c, rest, rfl, third⟩
    rw [decodeFrom_further third.1 third.2] at read
    rcases exists_next read with ⟨d, tail, rfl, last⟩
    rcases exists_four four second third last with ⟨c, bytes⟩
    exact ⟨c, tail, by rw [bytes]; rfl⟩

/-- A step of the reader: from one place between two characters to the next. -/
theorem exists_step {position : Nat} {byte : UInt8} {rest : List UInt8} {text : List Char}
    (read : decodeFrom position .between (byte :: rest) = .ok text) :
    ∃ c tail more next, byte :: rest = String.utf8EncodeChar c ++ tail ∧ text = c :: more ∧
      decodeFrom next .between tail = .ok more := by
  rcases exists_utf8EncodeChar read with ⟨c, tail, written⟩
  rw [written, decodeFrom_utf8EncodeChar] at read
  generalize nextEq : position + (String.utf8EncodeChar c).length = next at read
  cases decoded : decodeFrom next .between tail with
  | ok more =>
      rw [decoded] at read
      cases read
      exact ⟨c, tail, more, next, written, rfl, decoded⟩
  | error problem =>
      rw [decoded] at read
      cases read

/-- A text is read off its own bytes only. -/
theorem eq_encode_of_decodeFrom {position : Nat} {bytes : List UInt8} {text : List Char}
    (read : decodeFrom position .between bytes = .ok text) : bytes = encode text := by
  induction text generalizing position bytes with
  | nil =>
      cases bytes with
      | nil => rfl
      | cons byte rest =>
          rcases exists_step read with ⟨c, tail, more, next, -, noneRead, -⟩
          cases noneRead
  | cons first text ih =>
      cases bytes with
      | nil => cases read
      | cons byte rest =>
          rcases exists_step read with ⟨c, tail, more, next, written, same, decoded⟩
          cases same
          rw [written, ih decoded]
          rfl

theorem decode_eq_ok_iff {bytes : List UInt8} {text : List Char} :
    decode bytes = .ok text ↔ bytes = encode text :=
  ⟨eq_encode_of_decodeFrom, fun spelled => spelled ▸ decode_encode text⟩

/-- Refused are a character that is cut off, a byte without a beginning, a form that is too long, a
surrogate, and what is above all characters. -/
example : ∀ bytes ∈ [[0xE2, 0x82], [0x80], [0xC0, 0x80], [0xED, 0xA0, 0x80],
    [0xF4, 0x90, 0x80, 0x80]], (decode bytes).toOption = none := by
  decide

theorem isValidUTF8_encode (text : List Char) : (encode text).toByteArray.IsValidUTF8 :=
  ByteArray.isValidUTF8_utf8Encode

theorem isValidUTF8_iff {bytes : List UInt8} :
    bytes.toByteArray.IsValidUTF8 ↔ ∃ text, bytes = encode text := by
  constructor
  · rintro ⟨text, spelled⟩
    exact ⟨text, List.toByteArray_inj.mp spelled⟩
  · rintro ⟨text, rfl⟩
    exact isValidUTF8_encode text

/-- The bytes of a text as they are kept. -/
theorem encode_toList (text : String) : encode text.toList = text.toUTF8.data.toList := by
  have kept : text.toUTF8 = (encode text.toList).toByteArray := String.utf8Encode_toList.symm
  rw [kept, List.data_toByteArray]

end DocHighlight.Text.Utf8
