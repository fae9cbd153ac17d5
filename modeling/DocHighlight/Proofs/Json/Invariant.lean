import DocHighlight.Json.Reader
import DocHighlight.Proofs.Json.Printing
import DocHighlight.Proofs.Json.Traversal

/-!
# What the reader keeps to

Every value that is read has distinct keys, stands in no more containers than the limits allow, and
has no integer with more digits than they allow; only a single digit is read whatever the limits.
These are invariants of the automaton: they hold of all that already stands in the open containers,
where a value counts with the containers around it, and of the digits of the number that is being
read. A step either begins a container or a scalar, which checks the depth, or completes a value,
which the innermost open container takes.
-/

namespace DocHighlight.Json

variable {limits : Limits}

/-- A value that may stand in so many containers. -/
structure SoundAt (limits : Limits) (depth : Nat) (value : Json) : Prop where
  distinct : value.DistinctKeys
  nesting : value.height + depth ≤ limits.depth + 1
  digits : ∀ part ∈ value.parts, part.digitCount ≤ max 1 limits.digits

/-- Values that may be the elements of an array which stands in so many containers. -/
structure ElementsSound (limits : Limits) (depth : Nat) (elements : List Json) : Prop where
  fits : depth ≤ limits.depth
  each : ∀ element ∈ elements, SoundAt limits (depth + 1) element

/-- Members that may be those of an object which stands in so many containers. -/
structure MembersSound (limits : Limits) (depth : Nat) (members : List (String × Json)) : Prop where
  fits : depth ≤ limits.depth
  distinct : (Keyed.keys members).Nodup
  each : ∀ member ∈ members, SoundAt limits (depth + 1) member.2

def Frame.Sound (limits : Limits) (depth : Nat) : Frame → Prop
  | .array before => ElementsSound limits depth before
  | .object before _ => MembersSound limits depth before

def FramesSound (limits : Limits) : List Frame → Prop
  | [] => True
  | frame :: frames => frame.Sound limits frames.length ∧ FramesSound limits frames

/-- What holds of a number so far: it is below the power of ten that its digits allow. After the
integer part the digits are no longer counted, since the number will not be an integer. -/
def NumberPart.Sound (limits : Limits) (numeral : Numeral) : NumberPart → Prop
  | .sign => numeral.digits = 0
  | .zero | .whole =>
      numeral.digits < Nat.pow 10 numeral.count ∧ numeral.count ≤ max 1 limits.digits
  | _ => True

/-- What holds of the mode of a reader with so many containers open. -/
def Mode.Sound (limits : Limits) (depth : Nat) : Mode → Prop
  | .value => True
  | .element before | .afterElement before => ElementsSound limits depth before
  | .key before | .colon before _ | .afterMember before | .string (.key before) .. =>
      MembersSound limits depth before
  | .string .value .. => depth ≤ limits.depth
  | .number part numeral => depth ≤ limits.depth ∧ part.Sound limits numeral
  | .word result _ | .finished result => SoundAt limits depth result

/-- The invariant of the reader. -/
structure State.Sound (limits : Limits) (state : State) : Prop where
  frames : FramesSound limits state.frames
  mode : state.mode.Sound limits state.frames.length

/-- A value that holds no others may stand wherever there is room. -/
theorem soundAt_of_scalar {depth : Nat} (fits : depth ≤ limits.depth) {value : Json}
    (alone : value.parts = [value]) (noKeys : value.ownKeys = []) (flat : value.height = 1)
    (short : value.digitCount ≤ max 1 limits.digits) : SoundAt limits depth value where
  distinct := distinctKeys_of_scalar alone noKeys
  nesting := by omega
  digits part mem := by
    rw [alone, List.mem_singleton] at mem
    rwa [mem]

theorem ElementsSound.nil {depth : Nat} (fits : depth ≤ limits.depth) :
    ElementsSound limits depth [] :=
  ⟨fits, by simp⟩

theorem ElementsSound.cons {depth : Nat} {value : Json} {before : List Json}
    (sound : ElementsSound limits depth before) (valueSound : SoundAt limits (depth + 1) value) :
    ElementsSound limits depth (value :: before) :=
  ⟨sound.fits, List.forall_mem_cons.mpr ⟨valueSound, sound.each⟩⟩

theorem ElementsSound.reverse {depth : Nat} {before : List Json}
    (sound : ElementsSound limits depth before) : ElementsSound limits depth before.reverse :=
  ⟨sound.fits, fun element mem => sound.each element (List.mem_reverse.mp mem)⟩

theorem ElementsSound.array {depth : Nat} {elements : List Json}
    (sound : ElementsSound limits depth elements) : SoundAt limits depth (.array elements) := by
  refine ⟨?_, ?_, ?_⟩
  · exact distinctKeys_array.mpr fun element mem => (sound.each element mem).distinct
  · have inside : heightOfElements elements ≤ limits.depth - depth := by
      apply heightOfElements_le_iff.mpr
      intro element mem
      have := (sound.each element mem).nesting
      omega
    have := sound.fits
    rw [height]
    omega
  · exact forall_parts_array.mpr
      ⟨Nat.zero_le _, fun element mem => (sound.each element mem).digits⟩

theorem MembersSound.nil {depth : Nat} (fits : depth ≤ limits.depth) :
    MembersSound limits depth [] :=
  ⟨fits, List.nodup_nil, by simp⟩

theorem MembersSound.put {depth : Nat} {value : Json} {before : List (String × Json)}
    (sound : MembersSound limits depth before) (valueSound : SoundAt limits (depth + 1) value)
    (key : String) : MembersSound limits depth (Keyed.put before key value) := by
  refine ⟨sound.fits, Keyed.nodup_keys_put sound.distinct key value, ?_⟩
  intro member mem
  rcases Keyed.mem_put mem with rfl | mem
  · exact valueSound
  · exact sound.each member mem

theorem MembersSound.object {depth : Nat} {members : List (String × Json)}
    (sound : MembersSound limits depth members) : SoundAt limits depth (.object members) := by
  refine ⟨?_, ?_, ?_⟩
  · exact distinctKeys_object.mpr
      ⟨sound.distinct, fun member mem => (sound.each member mem).distinct⟩
  · have inside : heightOfMembers members ≤ limits.depth - depth := by
      apply heightOfMembers_le_iff.mpr
      intro member mem
      have := (sound.each member mem).nesting
      omega
    have := sound.fits
    rw [height]
    omega
  · exact forall_parts_object.mpr ⟨Nat.zero_le _, fun member mem => (sound.each member mem).digits⟩

theorem digit?_lt {c : Char} {digit : Nat} (found : digit? c = some digit) : digit < 10 := by
  simp only [digit?] at found
  split at found
  · rename_i between
    cases found
    have last : c.toNat ≤ 57 := between.2
    have first : '0'.toNat = 48 := rfl
    omega
  · cases found

/-- The first digit of a number is allowed whatever the limits. -/
theorem first_digit_sound {digit : Nat} (small : digit < 10) {numeral : Numeral}
    (digits : numeral.digits = digit) (count : numeral.count = 1) :
    NumberPart.Sound limits numeral .whole := by
  rw [NumberPart.Sound, digits, count]
  exact ⟨small, Nat.le_max_left ..⟩

/-- A further digit is taken only while there is room for it. -/
theorem next_digit_sound {digit : Nat} (small : digit < 10) {numeral : Numeral}
    (sound : NumberPart.Sound limits numeral .whole) (room : numeral.count < limits.digits) :
    NumberPart.Sound limits { numeral with
      digits := numeral.digits * 10 + digit, count := numeral.count + 1 } .whole := by
  have below : numeral.digits < Nat.pow 10 numeral.count := sound.1
  refine ⟨?_, Nat.le_trans room (Nat.le_max_right ..)⟩
  change numeral.digits * 10 + digit < Nat.pow 10 numeral.count * 10
  omega

/-- A complete number stands wherever there is room. -/
theorem soundAt_number {depth : Nat} (fits : depth ≤ limits.depth) {part : NumberPart}
    {numeral : Numeral} (sound : part.Sound limits numeral) :
    SoundAt limits depth (numeral.value part) := by
  have integer : NumberPart.Sound limits numeral .whole →
      SoundAt limits depth (numeral.value .whole) := by
    rintro ⟨below, few⟩
    apply soundAt_of_scalar fits rfl rfl rfl
    have size : (if numeral.negative then -(numeral.digits : Int) else numeral.digits).natAbs =
        numeral.digits := by
      split <;> omega
    rw [Numeral.value, digitCount, size]
    apply (Nat.length_toDigits_le_iff (by decide) (by omega)).mpr
    exact Nat.lt_of_lt_of_le below (Nat.pow_le_pow_right (by decide) few)
  cases part with
  | zero | whole => exact integer sound
  | _ => exact soundAt_of_scalar fits rfl rfl rfl (Nat.zero_le _)

section Steps

variable {frames : List Frame} {next : State} {c : Char}

/-- The innermost open container takes a complete value. -/
theorem deliver_sound (around : FramesSound limits frames) {value : Json}
    (sound : SoundAt limits frames.length value) : (deliver frames value).Sound limits := by
  rcases frames with _ | ⟨_ | _, frames⟩
  · exact ⟨trivial, sound⟩
  · exact ⟨around.2, ElementsSound.cons around.1 sound⟩
  · exact ⟨around.2, MembersSound.put around.1 sound _⟩

theorem beginValue_sound (around : FramesSound limits frames)
    (begun : beginValue limits frames c = .ok next) : next.Sound limits := by
  simp only [beginValue] at begun
  split at begun
  · cases begun
  · rename_i shallow
    have fits : frames.length ≤ limits.depth := Nat.not_lt.mp shallow
    have word : ∀ (value : Json) (rest : List Char), value.parts = [value] → value.ownKeys = [] →
        value.height = 1 → value.digitCount ≤ max 1 limits.digits →
        State.Sound limits ⟨frames, .word value rest⟩ :=
      fun value rest alone noKeys flat short =>
        ⟨around, soundAt_of_scalar fits alone noKeys flat short⟩
    split at begun
    case h_1 => cases begun; exact ⟨around, ElementsSound.nil fits⟩
    case h_2 => cases begun; exact ⟨around, MembersSound.nil fits⟩
    case h_3 => cases begun; exact ⟨around, fits⟩
    case h_4 | h_5 | h_6 | h_7 | h_8 =>
      cases begun
      exact word _ _ rfl rfl rfl (Nat.zero_le _)
    case h_9 => cases begun; exact ⟨around, fits, rfl⟩
    case h_10 => cases begun; exact ⟨around, fits, first_digit_sound (by decide) rfl rfl⟩
    case h_11 =>
      split at begun
      · rename_i found
        cases begun
        exact ⟨around, fits, first_digit_sound (digit?_lt found) rfl rfl⟩
      · cases begun

theorem stepBetween_sound {mode : Mode} (around : FramesSound limits frames)
    (sound : mode.Sound limits frames.length)
    (taken : stepBetween limits frames mode c = .ok next) : next.Sound limits := by
  unfold stepBetween at taken
  by_cases space : isSpace c = true
  · rw [if_pos space] at taken
    cases taken
    exact ⟨around, sound⟩
  rw [if_neg space] at taken
  cases mode with
  | value => exact beginValue_sound around taken
  | element before =>
      simp only at taken
      split at taken
      · split at taken
        · cases taken
          exact deliver_sound around (ElementsSound.nil sound.fits).array
        · cases taken
      · exact @beginValue_sound limits (.array before :: frames) _ _ ⟨sound, around⟩ taken
  | afterElement before =>
      simp only at taken
      split at taken
      · cases taken
        exact ⟨around, sound⟩
      split at taken
      · cases taken
        exact deliver_sound around (ElementsSound.reverse sound).array
      · cases taken
  | key before =>
      simp only at taken
      split at taken
      · cases taken
        exact ⟨around, sound⟩
      split at taken
      · split at taken
        · cases taken
          exact deliver_sound around (MembersSound.nil sound.fits).object
        · cases taken
      · cases taken
  | colon before key =>
      simp only at taken
      split at taken
      · cases taken
        exact ⟨⟨sound, around⟩, trivial⟩
      · cases taken
  | afterMember before =>
      simp only at taken
      split at taken
      · cases taken
        exact ⟨around, sound⟩
      split at taken
      · cases taken
        exact deliver_sound around (MembersSound.object sound)
      · cases taken
  | _ => cases taken

/-- In a string only the closing quote does more than to move on in the string. -/
theorem stepString_next {role : StringRole} {part : StringPart} {done : List Char}
    (taken : stepString frames role part done c = .ok next) :
    next = deliverString frames role done ∨
      ∃ part done, next = ⟨frames, .string role part done⟩ := by
  simp only [stepString] at taken
  repeat' split at taken
  all_goals
    first
    | cases taken; exact .inl rfl
    | cases taken; exact .inr ⟨_, _, rfl⟩
    | cases taken

theorem stepString_sound {role : StringRole} {part : StringPart} {done : List Char}
    (around : FramesSound limits frames)
    (sound : (Mode.string role part done).Sound limits frames.length)
    (taken : stepString frames role part done c = .ok next) : next.Sound limits := by
  rcases stepString_next taken with rfl | ⟨part, done, rfl⟩
  · cases role with
    | value => exact deliver_sound around (soundAt_of_scalar sound rfl rfl rfl (Nat.zero_le _))
    | key before => exact ⟨around, sound⟩
  · cases role <;> exact ⟨around, sound⟩

/-- In a number a character either moves on in the number, or it is the one after the number. -/
theorem stepNumber_next {part : NumberPart} {numeral : Numeral}
    (sound : part.Sound limits numeral)
    (taken : stepNumber limits frames part numeral c = .ok next) :
    (∃ part numeral, part.Sound limits numeral ∧ next = ⟨frames, .number part numeral⟩) ∨
      (∃ rest, next = ⟨frames, .word (.float (.infinite true)) rest⟩) ∨
      ∃ part numeral, part.Sound limits numeral ∧
        endNumber limits frames part numeral c = .ok next := by
  cases found : digit? c with
  | none =>
      -- Whatever follows the integer part, the number keeps its digits.
      cases part <;> simp only [stepNumber, stepAfterDigits, found] at taken
      all_goals repeat' split at taken
      all_goals
        first
        | cases taken; exact .inl ⟨_, _, by trivial, rfl⟩
        | cases taken; exact .inr (.inl ⟨_, rfl⟩)
        | exact .inr (.inr ⟨_, _, sound, taken⟩)
        | cases taken
  | some digit =>
      have small := digit?_lt found
      cases part with
      | sign =>
          left
          cases digit with
          | zero =>
              simp only [stepNumber, found] at taken
              cases taken
              exact ⟨.zero, { numeral with count := 1 }, first_digit_sound small sound rfl, rfl⟩
          | succ digit =>
              simp only [stepNumber, found] at taken
              cases taken
              exact ⟨.whole, _, first_digit_sound small rfl rfl, rfl⟩
      | zero => simp [stepNumber, found] at taken
      | whole =>
          simp only [stepNumber, found] at taken
          split at taken
          · rename_i room
            cases taken
            exact .inl ⟨_, _, next_digit_sound small sound room, rfl⟩
          · cases taken
      | _ =>
          simp only [stepNumber, found] at taken
          cases taken
          exact .inl ⟨_, _, by trivial, rfl⟩

theorem stepNumber_sound {part : NumberPart} {numeral : Numeral}
    (around : FramesSound limits frames) (fits : frames.length ≤ limits.depth)
    (sound : part.Sound limits numeral)
    (taken : stepNumber limits frames part numeral c = .ok next) : next.Sound limits := by
  rcases stepNumber_next sound taken with
    ⟨part, numeral, sound, rfl⟩ | ⟨rest, rfl⟩ | ⟨part, numeral, sound, ended⟩
  · exact ⟨around, fits, sound⟩
  · exact ⟨around, soundAt_of_scalar fits rfl rfl rfl (Nat.zero_le _)⟩
  · have after := deliver_sound around (soundAt_number fits sound)
    exact stepBetween_sound after.frames after.mode ended

/-- Every step keeps the invariant. -/
theorem step_sound {state : State} (sound : state.Sound limits)
    (taken : step limits state c = .ok next) : next.Sound limits := by
  rcases state with ⟨frames, mode⟩
  have around : FramesSound limits frames := sound.frames
  cases mode with
  | string role part done => exact stepString_sound around sound.mode taken
  | number part numeral => exact stepNumber_sound around sound.mode.1 sound.mode.2 taken
  | word value rest =>
      cases rest with
      | nil => exact stepBetween_sound around sound.mode taken
      | cons due rest =>
          simp only [step] at taken
          split at taken
          · cases taken
          split at taken
          · cases taken
            exact deliver_sound around sound.mode
          · cases taken
            exact ⟨around, sound.mode⟩
  | _ => exact stepBetween_sound around sound.mode taken

end Steps

theorem finish_sound {state : State} {value : Json} (sound : state.Sound limits)
    (complete : finish state = .ok value) : ∃ depth, SoundAt limits depth value := by
  rcases state with ⟨frames, mode⟩
  cases mode with
  | finished result =>
      cases complete
      exact ⟨_, sound.mode⟩
  | number part numeral =>
      simp only [finish] at complete
      split at complete
      · have last := soundAt_number sound.mode.1 sound.mode.2
        have after := deliver_sound sound.frames last
        split at complete
        · rename_i finished
          cases complete
          have mode := after.mode
          rw [finished] at mode
          exact ⟨_, mode⟩
        · cases complete
        · cases complete
      · cases complete
  | _ => cases complete

theorem run_sound {text : List Char} {state : State} {value : Json} (sound : state.Sound limits)
    (read : run limits state text = .ok value) : ∃ depth, SoundAt limits depth value := by
  induction text generalizing state with
  | nil =>
      rw [run] at read
      cases ended : finish state with
      | error cause =>
          rw [ended] at read
          cases read
      | ok result =>
          rw [ended] at read
          cases read
          exact finish_sound sound ended
  | cons c rest ih =>
      rw [run] at read
      cases taken : step limits state c with
      | error cause =>
          rw [taken] at read
          cases read
      | ok next =>
          rw [taken] at read
          exact ih (step_sound sound taken) read

theorem parseWithin_sound {text : List Char} {value : Json}
    (read : parseWithin limits text = .ok value) :
    value.DistinctKeys ∧ value.height ≤ limits.depth + 1 ∧
      ∀ part ∈ value.parts, part.digitCount ≤ max 1 limits.digits := by
  rw [parseWithin] at read
  cases ran : run limits .initial text with
  | error failure =>
      rw [ran] at read
      cases read
  | ok result =>
      rw [ran] at read
      cases read
      have start : State.Sound limits .initial := ⟨trivial, trivial⟩
      rcases run_sound start ran with ⟨depth, sound⟩
      exact ⟨sound.distinct, by have := sound.nesting; omega, sound.digits⟩

/-- What is read has distinct keys. -/
theorem distinctKeys_of_parse {text : List Char} {value : Json} (read : parse text = .ok value) :
    value.DistinctKeys :=
  (parseWithin_sound read).1

/-- What is read stands no deeper than the limit. -/
theorem height_le_of_parse {text : List Char} {value : Json} (read : parse text = .ok value) :
    value.height ≤ 201 :=
  (parseWithin_sound read).2.1

/-- What is read has no integer of more digits than the limit. -/
theorem digits_of_parse {text : List Char} {value : Json} (read : parse text = .ok value) :
    ∀ part ∈ value.parts, part.digitCount ≤ Limits.standard.digits :=
  (parseWithin_sound read).2.2

end DocHighlight.Json
