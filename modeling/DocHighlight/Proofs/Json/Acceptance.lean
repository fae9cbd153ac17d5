import DocHighlight.Proofs.Json.Grammar

/-!
# The reader takes what the grammar spells

Each part of the grammar takes the automaton of the reader from the state in which the part is due
to the state after it, whatever text comes next. A number is the one part that shows its end only by
the character after it, so there what comes next must not go on with the number.

The induction over values goes from the state after the first character, since the same character
begins a value at the top, after a colon, and as an element. It follows that a text that is spelled
within the limits is read as the value it spells, and that no text spells two values.
-/

namespace DocHighlight.Json

variable {limits : Limits}

theorem run_cons {state : State} {c : Char} {rest : List Char} (next : State)
    (taken : step limits state c = .ok next) :
    run limits state (c :: rest) = run limits next rest := by
  simp only [run, taken]

theorem isSpace_of_blank {text : List Char} (blank : Blank text) {c : Char} (mem : c ∈ text) :
    isSpace c = true := by
  rcases blank c mem with rfl | rfl | rfl | rfl <;> rfl

/-- White space changes nothing where it is taken as such. -/
theorem run_blank {frames : List Frame} {mode : Mode}
    (between : ∀ c, step limits ⟨frames, mode⟩ c = stepBetween limits frames mode c)
    {text rest : List Char} (blank : Blank text) :
    run limits ⟨frames, mode⟩ (text ++ rest) = run limits ⟨frames, mode⟩ rest := by
  induction text with
  | nil => rfl
  | cons c text ih =>
      have space : isSpace c = true := isSpace_of_blank blank (List.mem_cons_self ..)
      have taken : step limits ⟨frames, mode⟩ c = .ok ⟨frames, mode⟩ := by
        rw [between]
        exact if_pos space
      rw [List.cons_append, run_cons _ taken]
      exact ih fun c mem => blank c (List.mem_cons_of_mem _ mem)

/-- After a value white space is taken as such. -/
theorem step_deliver (frames : List Frame) (value : Json) (c : Char) :
    step limits (deliver frames value) c =
      stepBetween limits (deliver frames value).frames (deliver frames value).mode c := by
  rcases frames with _ | ⟨_ | _, _⟩ <;> rfl

theorem run_deliver_blank {frames : List Frame} {value : Json} {text rest : List Char}
    (blank : Blank text) :
    run limits (deliver frames value) (text ++ rest) = run limits (deliver frames value) rest :=
  run_blank (step_deliver frames value) blank

theorem run_word {frames : List Frame} {value : Json} {first : Char} {text rest : List Char} :
    run limits ⟨frames, .word value (first :: text)⟩ (first :: (text ++ rest)) =
      run limits (deliver frames value) rest := by
  induction text generalizing first with
  | nil => exact run_cons _ (by simp [step])
  | cons c text ih =>
      rw [run_cons (⟨frames, .word value (c :: text)⟩) (by simp [step])]
      exact ih

/-- A text that does not go on with a number. -/
def Ends (text : List Char) : Prop :=
  ∀ c ∈ text.head?, c.isDigit = false ∧ c ≠ '.' ∧ c ≠ 'e' ∧ c ≠ 'E'

theorem ends_nil : Ends [] := by
  simp [Ends]

theorem ends_cons {c : Char} {text : List Char}
    (other : c.isDigit = false ∧ c ≠ '.' ∧ c ≠ 'e' ∧ c ≠ 'E') : Ends (c :: text) := by
  simpa [Ends] using other

theorem Blank.ends_append {blank rest : List Char} (blanks : Blank blank) (ends : Ends rest) :
    Ends (blank ++ rest) := by
  cases blank with
  | nil => exact ends
  | cons c blank =>
      apply ends_cons
      rcases blanks c (List.mem_cons_self ..) with rfl | rfl | rfl | rfl <;> decide

theorem digit?_of_isDigit {c : Char} (digit : c.isDigit = true) :
    digit? c = some (c.toNat - '0'.toNat) := by
  simp only [Char.isDigit, Bool.and_eq_true, decide_eq_true_eq] at digit
  exact if_pos digit

theorem digit?_of_not_isDigit {c : Char} (other : c.isDigit = false) : digit? c = none := by
  apply if_neg
  intro digit
  simp [Char.isDigit] at other
  exact absurd digit.2 (Char.not_le.mpr (other digit.1))

/-- A number ends before whatever does not go on with it. -/
theorem run_number_end {frames : List Frame} {part : NumberPart} {numeral : Numeral}
    {rest : List Char} (complete : part.isComplete = true) (ends : Ends rest) :
    run limits ⟨frames, .number part numeral⟩ rest =
      run limits (deliver frames (numeral.value part)) rest := by
  cases rest with
  | nil =>
      simp only [run, finish, complete, if_true]
      rcases frames with _ | ⟨_ | _, _⟩ <;> rfl
  | cons c rest =>
      rcases ends c rfl with ⟨digit, point, small, capital⟩
      have none : digit? c = none := digit?_of_not_isDigit digit
      have same : step limits ⟨frames, .number part numeral⟩ c =
          step limits (deliver frames (numeral.value part)) c := by
        rw [step_deliver]
        cases part <;>
          simp_all [step, stepNumber, stepAfterDigits, endNumber, NumberPart.isComplete]
      rw [run, run, same]
      rcases frames with _ | ⟨_ | _, _⟩ <;> rfl

theorem run_whole {frames : List Frame} {numeral : Numeral} {text rest : List Char}
    (digits : Digits text) (fits : numeral.count + text.length ≤ limits.digits) :
    run limits ⟨frames, .number .whole numeral⟩ (text ++ rest) =
      run limits ⟨frames, .number .whole { numeral with
        digits := Nat.ofDigitChars 10 text numeral.digits
        count := numeral.count + text.length }⟩ rest := by
  induction text generalizing numeral with
  | nil => simp
  | cons c text ih =>
      have digit := digit?_of_isDigit (digits c (List.mem_cons_self ..))
      have room : numeral.count < limits.digits := by
        simp only [List.length_cons] at fits
        omega
      rw [List.cons_append,
        run_cons (⟨frames, .number .whole { numeral with
          digits := numeral.digits * 10 + (c.toNat - '0'.toNat), count := numeral.count + 1 }⟩)
          (by simp [step, stepNumber, digit, room]),
        ih (fun c mem => digits c (List.mem_cons_of_mem _ mem))
          (by simp only [List.length_cons] at fits ⊢; omega)]
      simp only [Nat.ofDigitChars_cons, List.length_cons, Nat.mul_comm, Nat.add_assoc,
        Nat.add_comm 1]

theorem run_fraction {frames : List Frame} {numeral : Numeral} {text rest : List Char}
    (digits : Digits text) :
    run limits ⟨frames, .number .fraction numeral⟩ (text ++ rest) =
      run limits ⟨frames, .number .fraction { numeral with
        digits := Nat.ofDigitChars 10 text numeral.digits
        decimals := numeral.decimals + text.length }⟩ rest := by
  induction text generalizing numeral with
  | nil => simp
  | cons c text ih =>
      have digit := digit?_of_isDigit (digits c (List.mem_cons_self ..))
      rw [List.cons_append,
        run_cons (⟨frames, .number .fraction { numeral with
          digits := numeral.digits * 10 + (c.toNat - '0'.toNat),
          decimals := numeral.decimals + 1 }⟩) (by simp [step, stepNumber, digit]),
        ih fun c mem => digits c (List.mem_cons_of_mem _ mem)]
      simp only [Nat.ofDigitChars_cons, List.length_cons, Nat.mul_comm, Nat.add_assoc,
        Nat.add_comm 1]

theorem run_exponent {frames : List Frame} {numeral : Numeral} {text rest : List Char}
    (digits : Digits text) :
    run limits ⟨frames, .number .exponentDigits numeral⟩ (text ++ rest) =
      run limits ⟨frames, .number .exponentDigits { numeral with
        exponent := Nat.ofDigitChars 10 text numeral.exponent }⟩ rest := by
  induction text generalizing numeral with
  | nil => simp
  | cons c text ih =>
      have digit := digit?_of_isDigit (digits c (List.mem_cons_self ..))
      rw [List.cons_append,
        run_cons (⟨frames, .number .exponentDigits { numeral with
          exponent := numeral.exponent * 10 + (c.toNat - '0'.toNat) }⟩)
          (by simp [step, stepNumber, digit]),
        ih fun c mem => digits c (List.mem_cons_of_mem _ mem)]
      simp only [Nat.ofDigitChars_cons, Nat.mul_comm]

/-- A digit other than zero begins an integer part. -/
theorem beginValue_digit {frames : List Frame} (fits : frames.length ≤ limits.depth) {c : Char}
    (digit : c.isDigit = true) (notZero : c ≠ '0') :
    beginValue limits frames c =
      .ok ⟨frames, .number .whole ⟨false, c.toNat - '0'.toNat, 1, 0, false, 0⟩⟩ := by
  rw [beginValue, if_neg (Nat.not_lt.mpr fits)]
  · simp only [digit?_of_isDigit digit]
  case x_10 => exact notZero
  all_goals
    rintro rfl
    exact absurd digit (by decide)

/-- A digit other than zero has a value other than zero. -/
theorem digitValue_of_ne_zero {c : Char} (digit : c.isDigit = true) (notZero : c ≠ '0') :
    ∃ value, c.toNat - 48 = value + 1 := by
  simp only [Char.isDigit, Bool.and_eq_true, decide_eq_true_eq] at digit
  have least : 48 ≤ c.toNat := digit.1
  have different : c.toNat ≠ 48 := fun same => notZero (Char.toNat_inj.mp same)
  exact ⟨c.toNat - 48 - 1, by omega⟩

/-- The sign and the integer part of a number, of which the first character begins a value. -/
theorem begin_whole {frames : List Frame} (fits : frames.length ≤ limits.depth) (negative : Bool)
    {whole : List Char} (wholes : Whole limits whole) :
    ∃ c tail next part count, minus negative ++ whole = c :: tail ∧
      beginValue limits frames c = .ok next ∧ (part = .zero ∨ part = .whole) ∧
      ∀ rest, run limits next (tail ++ rest) =
        run limits ⟨frames, .number part ⟨negative, digitsValue whole, count, 0, false, 0⟩⟩
          rest := by
  cases negative with
  | false =>
      cases wholes with
      | zero =>
          refine ⟨'0', [], _, .zero, 1, rfl, ?_, .inl rfl, fun rest => rfl⟩
          rw [beginValue, if_neg (Nat.not_lt.mpr fits)]
          rfl
      | @positive first rest digits notZero room =>
          refine ⟨first, rest, _, .whole, 1 + rest.length, rfl,
            beginValue_digit fits (digits first (List.mem_cons_self ..)) notZero, .inr rfl, ?_⟩
          intro tail
          rw [run_whole (fun c mem => digits c (List.mem_cons_of_mem _ mem))
            (by simp only; omega)]
          simp [Nat.ofDigitChars_cons]
  | true =>
      have begun : beginValue limits frames '-' = .ok ⟨frames, .number .sign (.start true)⟩ := by
        rw [beginValue, if_neg (Nat.not_lt.mpr fits)]
      cases wholes with
      | zero => exact ⟨'-', ['0'], _, .zero, 1, rfl, begun, .inl rfl, fun rest => rfl⟩
      | @positive first rest digits notZero room =>
          refine ⟨'-', first :: rest, _, .whole, 1 + rest.length, rfl, begun, .inr rfl, ?_⟩
          intro tail
          have digit := digits first (List.mem_cons_self ..)
          rcases digitValue_of_ne_zero digit notZero with ⟨value, positive⟩
          rw [List.cons_append,
            run_cons (⟨frames, .number .whole ⟨true, value + 1, 1, 0, false, 0⟩⟩)
              (by simp [step, stepNumber, digit?_of_isDigit digit, positive, Numeral.start]),
            run_whole (fun c mem => digits c (List.mem_cons_of_mem _ mem)) (by simp only; omega)]
          simp [Nat.ofDigitChars_cons, positive]

theorem run_exponentSign {frames : List Frame} {numeral : Numeral} {sign : List Char}
    {negative : Bool} (signs : ExponentSign sign negative)
    (plain : numeral.exponentNegative = false)
    {first : Char} (digit : first.isDigit = true) (rest : List Char) :
    run limits ⟨frames, .number .exponentMark numeral⟩ (sign ++ first :: rest) =
      run limits ⟨frames, .number .exponentDigits { numeral with
        exponentNegative := negative
        exponent := numeral.exponent * 10 + (first.toNat - 48) }⟩ rest := by
  have value := digit?_of_isDigit digit
  cases signs with
  | none =>
      apply run_cons
      simp [step, stepNumber, value, ← plain]
  | plus =>
      refine (run_cons (⟨frames, .number .exponentSign numeral⟩) rfl).trans ?_
      apply run_cons
      simp [step, stepNumber, value, ← plain]
  | minus =>
      refine (run_cons (⟨frames, .number .exponentSign
        { numeral with exponentNegative := true }⟩) rfl).trans ?_
      apply run_cons
      simp [step, stepNumber, value]

theorem run_exponentMark {frames : List Frame} {part : NumberPart} {numeral : Numeral}
    (may : part = .zero ∨ part = .whole ∨ part = .fraction)
    (plain : numeral.exponentNegative = false) (noneYet : numeral.exponent = 0) {letter : Char}
    {sign : List Char} {negative : Bool} {first : Char} {rest : List Char}
    (exponential : letter = 'e' ∨ letter = 'E') (signs : ExponentSign sign negative)
    (digits : Digits (first :: rest)) (tail : List Char) :
    run limits ⟨frames, .number part numeral⟩ (letter :: (sign ++ first :: rest) ++ tail) =
      run limits ⟨frames, .number .exponentDigits { numeral with
        exponentNegative := negative
        exponent := digitsValue (first :: rest) }⟩ tail := by
  have marked : step limits ⟨frames, .number part numeral⟩ letter =
      .ok ⟨frames, .number .exponentMark numeral⟩ := by
    rcases exponential with rfl | rfl <;> rcases may with rfl | rfl | rfl <;> rfl
  have digit := digits first (List.mem_cons_self ..)
  rw [List.cons_append, run_cons _ marked, List.append_assoc, List.cons_append,
    run_exponentSign signs plain digit,
    run_exponent fun c mem => digits c (List.mem_cons_of_mem _ mem)]
  simp [noneYet, Nat.ofDigitChars_cons]

theorem run_point {frames : List Frame} {part : NumberPart} {numeral : Numeral}
    (may : part = .zero ∨ part = .whole) {first : Char} {rest : List Char}
    (digits : Digits (first :: rest)) (tail : List Char) :
    run limits ⟨frames, .number part numeral⟩ ('.' :: first :: rest ++ tail) =
      run limits ⟨frames, .number .fraction { numeral with
        digits := Nat.ofDigitChars 10 (first :: rest) numeral.digits
        decimals := numeral.decimals + (rest.length + 1) }⟩ tail := by
  have pointed : step limits ⟨frames, .number part numeral⟩ '.' =
      .ok ⟨frames, .number .point numeral⟩ := by
    rcases may with rfl | rfl <;> rfl
  have digit := digits first (List.mem_cons_self ..)
  rw [List.cons_append, run_cons _ pointed, List.cons_append,
    run_cons (⟨frames, .number .fraction { numeral with
      digits := numeral.digits * 10 + (first.toNat - 48), decimals := numeral.decimals + 1 }⟩)
      (by simp [step, stepNumber, digit?_of_isDigit digit]),
    run_fraction fun c mem => digits c (List.mem_cons_of_mem _ mem)]
  simp only [Nat.ofDigitChars_cons, Nat.mul_comm, Nat.add_assoc, Nat.add_comm 1]
  rfl

/-- A text takes the reader from before a value to after it, whatever other text comes next; its
first character begins the value. -/
def Reads (limits : Limits) (frames : List Frame) (text : List Char) (value : Json) : Prop :=
  ∃ c tail next, text = c :: tail ∧ beginValue limits frames c = .ok next ∧
    ∀ rest, Ends rest → run limits next (tail ++ rest) = run limits (deliver frames value) rest

theorem SpellsNumber.reads {frames : List Frame} (fits : frames.length ≤ limits.depth)
    {text : List Char} {value : Json} (spelled : SpellsNumber limits text value) :
    Reads limits frames text value := by
  cases spelled with
  | integer negative wholes =>
      rcases begin_whole fits negative wholes with
        ⟨c, tail, next, part, count, split, begun, may, after⟩
      refine ⟨c, tail, next, split, begun, fun rest ends => ?_⟩
      rw [after]
      rcases may with rfl | rfl <;> exact run_number_end rfl ends
  | float negative wholes fractions exponents marked =>
      rcases begin_whole fits negative wholes with
        ⟨c, tail, next, part, count, split, begun, may, after⟩
      refine ⟨c, tail ++ _, next, by rw [← List.append_assoc, split, List.cons_append], begun,
        fun rest ends => ?_⟩
      rw [List.append_assoc, after]
      cases fractions with
      | none =>
          cases exponents with
          | none => exact absurd rfl marked
          | some exponential signs digits =>
              rw [List.nil_append,
                run_exponentMark (may.imp_right .inl) rfl rfl exponential signs digits,
                run_number_end rfl ends]
              simp [Numeral.value, signed]
      | some fractionDigits =>
          rw [List.append_assoc, run_point may fractionDigits]
          cases exponents with
          | none =>
              rw [List.nil_append, run_number_end rfl ends]
              simp [Numeral.value, Nat.ofDigitChars_append]
          | some exponential signs digits =>
              rw [run_exponentMark (.inr (.inr rfl)) rfl rfl exponential signs digits,
                run_number_end rfl ends]
              simp [Numeral.value, signed, Nat.ofDigitChars_append]

theorem letterEscape?_of_known {letter c : Char} (known : (letter, c) ∈ escapeLetters) :
    letter ≠ 'u' ∧ letterEscape? letter = some c := by
  simp only [escapeLetters, List.mem_cons, Prod.mk.injEq, List.not_mem_nil, or_false] at known
  rcases known with ⟨rfl, rfl⟩ | ⟨rfl, rfl⟩ | ⟨rfl, rfl⟩ | ⟨rfl, rfl⟩ | ⟨rfl, rfl⟩ | ⟨rfl, rfl⟩ |
    ⟨rfl, rfl⟩ | ⟨rfl, rfl⟩ <;> exact ⟨by decide, rfl⟩

/-- The first three digits of a hexadecimal escape; the fourth one decides. -/
theorem run_hex {frames : List Frame} {role : StringRole} {high : Option Nat} {done : List Char}
    {digits : List Char} {code : Nat} (hex : FourDigits digits code) (rest : List Char) :
    ∃ value digit c, code = value * 16 + digit ∧ hexDigit? c = some digit ∧
      run limits ⟨frames, .string role (.hex high 0 4) done⟩ (digits ++ rest) =
        run limits ⟨frames, .string role (.hex high value 1) done⟩ (c :: rest) := by
  rcases hex with ⟨hasFirst, hasSecond, hasThird, hasFourth⟩
  refine ⟨_, _, _, rfl, hasFourth, ?_⟩
  simp [run, step, stepString, hasFirst, hasSecond, hasThird]

/-- An escape that is a character by itself. -/
theorem run_code {frames : List Frame} {role : StringRole} {done digits : List Char} {code : Nat}
    (hex : FourDigits digits code) (notHigh : ¬IsHighSurrogate code)
    (notLow : ¬IsLowSurrogate code) (rest : List Char) :
    run limits ⟨frames, .string role .plain done⟩ ('\\' :: 'u' :: (digits ++ rest)) =
      run limits ⟨frames, .string role .plain (Char.ofNat code :: done)⟩ rest := by
  rcases @run_hex limits frames role none done digits _ hex rest with
    ⟨value, digit, c, rfl, hasLast, firstThree⟩
  rw [run_cons (⟨frames, .string role .escape done⟩) rfl,
    run_cons (⟨frames, .string role (.hex none 0 4) done⟩) rfl, firstThree]
  apply run_cons
  rw [IsHighSurrogate] at notHigh
  rw [IsLowSurrogate] at notLow
  simp [step, stepString, hasLast, notHigh, notLow]

theorem run_pair {frames : List Frame} {role : StringRole} {done highDigits lowDigits : List Char}
    {high low : Nat} (highHex : FourDigits highDigits high) (lowHex : FourDigits lowDigits low)
    (isHigh : IsHighSurrogate high) (isLow : IsLowSurrogate low) (rest : List Char) :
    run limits ⟨frames, .string role .plain done⟩
        ('\\' :: 'u' :: (highDigits ++ '\\' :: 'u' :: (lowDigits ++ rest))) =
      run limits ⟨frames, .string role .plain
        (Char.ofNat (0x10000 + (high - 0xD800) * 0x400 + (low - 0xDC00)) :: done)⟩ rest := by
  rcases @run_hex limits frames role none done highDigits _ highHex
      ('\\' :: 'u' :: (lowDigits ++ rest)) with
    ⟨value, digit, c, rfl, hasLast, firstThree⟩
  rcases @run_hex limits frames role (some (value * 16 + digit)) done lowDigits _ lowHex rest with
    ⟨lowValue, lowDigit, lowChar, rfl, hasLowLast, lowFirstThree⟩
  have notLow : ¬(0xDC00 ≤ value * 16 + digit ∧ value * 16 + digit ≤ 0xDFFF) := by
    have := isHigh.2
    omega
  rw [IsHighSurrogate] at isHigh
  rw [IsLowSurrogate] at isLow
  rw [run_cons (⟨frames, .string role .escape done⟩) rfl,
    run_cons (⟨frames, .string role (.hex none 0 4) done⟩) rfl, firstThree,
    run_cons (⟨frames, .string role (.surrogate (value * 16 + digit)) done⟩)
      (by simp only [step, stepString, hasLast]; simp [notLow, isHigh]),
    run_cons (⟨frames, .string role (.surrogateEscape (value * 16 + digit)) done⟩) rfl,
    run_cons (⟨frames, .string role (.hex (some (value * 16 + digit)) 0 4) done⟩) rfl,
    lowFirstThree]
  apply run_cons
  simp [step, stepString, hasLowLast, isLow]

/-- The characters of a string are taken one after the other. -/
theorem SpellsString.run_text {frames : List Frame} {role : StringRole}
    {text characters : List Char} (spelled : SpellsString text characters) (done rest : List Char) :
    run limits ⟨frames, .string role .plain done⟩ (text ++ rest) =
      run limits ⟨frames, .string role .plain (characters.reverse ++ done)⟩ rest := by
  induction spelled generalizing done with
  | nil => rfl
  | @plain c text characters notQuote notEscape notControl others ih =>
      rw [List.cons_append, run_cons (⟨frames, .string role .plain (c :: done)⟩), ih]
      · simp
      · simp [step, stepString, notQuote, notEscape, Nat.not_lt.mpr notControl]
  | @letter letter c text characters known others ih =>
      rcases letterEscape?_of_known known with ⟨notU, means⟩
      rw [List.cons_append, List.cons_append,
        run_cons (⟨frames, .string role .escape done⟩) rfl,
        run_cons (⟨frames, .string role .plain (c :: done)⟩), ih]
      · simp
      · simp [step, stepString, notU, means]
  | @code digits text characters code hex notHigh notLow others ih =>
      rw [List.cons_append, List.cons_append, List.append_assoc, run_code hex notHigh notLow, ih]
      simp
  | @pair highDigits lowDigits text characters high low highHex lowHex isHigh isLow others ih =>
      simp only [List.cons_append, List.append_assoc]
      rw [run_pair highHex lowHex isHigh isLow, ih]
      simp

/-- A string from its first character to its closing quote. -/
theorem SpellsString.run_quoted {frames : List Frame} {role : StringRole}
    {text characters : List Char} (spelled : SpellsString text characters) (rest : List Char) :
    run limits ⟨frames, .string role .plain []⟩ (text ++ '"' :: rest) =
      run limits (deliverString frames role characters.reverse) rest := by
  rw [spelled.run_text, List.append_nil]
  exact run_cons _ rfl

/-- What begins a value is neither white space nor the end of an array. -/
theorem other_of_beginValue {frames : List Frame} {c : Char} {next : State}
    (begun : beginValue limits frames c = .ok next) : isSpace c = false ∧ c ≠ ']' := by
  have fails : ∀ d ∈ [' ', '\t', '\n', '\r', ']'], beginValue limits frames d ≠ .ok next := by
    intro d mem
    simp only [List.mem_cons, List.not_mem_nil, or_false] at mem
    rcases mem with rfl | rfl | rfl | rfl | rfl <;> simp only [beginValue, digit?] <;> split <;>
      simp
  constructor
  · rw [Bool.eq_false_iff]
    intro space
    simp only [isSpace, Bool.or_eq_true, decide_eq_true_eq] at space
    exact fails c (by simp only [List.mem_cons]; grind) begun
  · rintro rfl
    exact fails ']' (by simp) begun

theorem Reads.run_value {frames : List Frame} {text rest : List Char} {value : Json}
    (reads : Reads limits frames text value) (ends : Ends rest) :
    run limits ⟨frames, .value⟩ (text ++ rest) = run limits (deliver frames value) rest := by
  rcases reads with ⟨c, tail, next, rfl, begun, after⟩
  rw [List.cons_append, run_cons (next), after rest ends]
  have space := (other_of_beginValue begun).1
  simp [step, stepBetween, space, begun]

theorem Reads.run_element {frames : List Frame} {before : List Json} {text rest : List Char}
    {value : Json} (reads : Reads limits (.array before :: frames) text value) (ends : Ends rest) :
    run limits ⟨frames, .element before⟩ (text ++ rest) =
      run limits ⟨frames, .afterElement (value :: before)⟩ rest := by
  rcases reads with ⟨c, tail, next, rfl, begun, after⟩
  rw [List.cons_append, run_cons (next), after rest ends]
  · rfl
  · rcases other_of_beginValue begun with ⟨space, notEnd⟩
    simp [step, stepBetween, space, notEnd, begun]

theorem SpellsKey.run_key {frames : List Frame} {before : List (String × Json)} {label : List Char}
    {key : String} (named : SpellsKey label key) (rest : List Char) :
    run limits ⟨frames, .key before⟩ (label ++ ':' :: rest) =
      run limits ⟨.object before key :: frames, .value⟩ rest := by
  rcases named with ⟨blankBefore, spelled, blankAfter⟩
  simp only [List.append_assoc, List.cons_append]
  rw [run_blank (fun _ => rfl) blankBefore,
    run_cons (⟨frames, .string (.key before) .plain []⟩) rfl, spelled.run_quoted,
    deliverString, List.reverse_reverse, run_blank (fun _ => rfl) blankAfter]
  exact run_cons _ rfl

/-- The same as `Reads` for a text with white space around the value. -/
def ReadsPadded (limits : Limits) (frames : List Frame) (text : List Char) (value : Json) : Prop :=
  ∃ before core after, text = before ++ (core ++ after) ∧ Blank before ∧
    Reads limits frames core value ∧ Blank after

theorem ReadsPadded.run_value {frames : List Frame} {text rest : List Char} {value : Json}
    (reads : ReadsPadded limits frames text value) (ends : Ends rest) :
    run limits ⟨frames, .value⟩ (text ++ rest) = run limits (deliver frames value) rest := by
  rcases reads with ⟨before, core, after, rfl, blankBefore, inner, blankAfter⟩
  simp only [List.append_assoc]
  rw [run_blank (fun _ => rfl) blankBefore, inner.run_value (blankAfter.ends_append ends),
    run_deliver_blank blankAfter]

theorem ReadsPadded.run_element {frames : List Frame} {before : List Json}
    {text rest : List Char} {value : Json}
    (reads : ReadsPadded limits (.array before :: frames) text value) (ends : Ends rest) :
    run limits ⟨frames, .element before⟩ (text ++ rest) =
      run limits ⟨frames, .afterElement (value :: before)⟩ rest := by
  rcases reads with ⟨front, core, after, rfl, blankFront, inner, blankAfter⟩
  simp only [List.append_assoc]
  rw [run_blank (fun _ => rfl) blankFront, inner.run_element (blankAfter.ends_append ends),
    run_blank (fun _ => rfl) blankAfter]

theorem ends_of_mark {c : Char} (mark : c = ',' ∨ c = ']' ∨ c = '\x7d') (text : List Char) :
    Ends (c :: text) := by
  rcases mark with rfl | rfl | rfl <;> exact ends_cons (by decide)

theorem reads_word {frames : List Frame} (fits : frames.length ≤ limits.depth) {text : List Char}
    {value : Json} (known : (text, value) ∈ words) : Reads limits frames text value := by
  have begins : ∀ {c : Char} {next : State}, beginValue limits frames c =
      (if limits.depth < frames.length then .error .tooDeep else .ok next) →
      beginValue limits frames c = .ok next :=
    fun begun => begun.trans (if_neg (Nat.not_lt.mpr fits))
  simp only [words, List.mem_cons, Prod.mk.injEq, List.not_mem_nil, or_false] at known
  rcases known with ⟨rfl, rfl⟩ | ⟨rfl, rfl⟩ | ⟨rfl, rfl⟩ | ⟨rfl, rfl⟩ | ⟨rfl, rfl⟩ | ⟨rfl, rfl⟩
  case inr.inr.inr.inr.inr =>
    exact ⟨'-', _, _, rfl, begins rfl, fun rest _ => (run_cons _ rfl).trans run_word⟩
  all_goals exact ⟨_, _, _, rfl, begins rfl, fun rest _ => run_word⟩

mutual

/-- A value in so many containers, by the constructors of its spelling. -/
theorem SpellsValue.reads {depth : Nat} {text : List Char} {value : Json} :
    SpellsValue limits depth text value →
      ∀ frames : List Frame, frames.length = depth → Reads limits frames text value
  | .word fits known, frames, same => reads_word (same ▸ fits) known
  | .number fits spelled, frames, same => spelled.reads (same ▸ fits)
  | .string fits spelled, frames, same => by
      refine ⟨'"', _, ⟨frames, .string .value .plain []⟩, rfl,
        if_neg (Nat.not_lt.mpr (same ▸ fits)), ?_⟩
      intro rest _
      rw [List.append_assoc, List.singleton_append, spelled.run_quoted, deliverString,
        List.reverse_reverse]
  | .emptyArray fits blank, frames, same => by
      refine ⟨'[', _, ⟨frames, .element []⟩, rfl, if_neg (Nat.not_lt.mpr (same ▸ fits)), ?_⟩
      intro rest _
      rw [List.append_assoc, run_blank (fun _ => rfl) blank]
      exact run_cons _ rfl
  | .array fits spelled, frames, same => by
      refine ⟨'[', _, ⟨frames, .element []⟩, rfl, if_neg (Nat.not_lt.mpr (same ▸ fits)), ?_⟩
      intro rest _
      rw [List.append_assoc, List.singleton_append, spelled.run_end (congrArg (· + 1) same),
        List.reverse_nil, List.nil_append]
  | .emptyObject fits blank, frames, same => by
      refine ⟨'\x7b', _, ⟨frames, .key []⟩, rfl, if_neg (Nat.not_lt.mpr (same ▸ fits)), ?_⟩
      intro rest _
      rw [List.append_assoc, run_blank (fun _ => rfl) blank]
      exact run_cons _ rfl
  | .object fits spelled, frames, same => by
      refine ⟨'\x7b', _, ⟨frames, .key []⟩, rfl, if_neg (Nat.not_lt.mpr (same ▸ fits)), ?_⟩
      intro rest _
      rw [List.append_assoc, List.singleton_append, spelled.run_end (congrArg (· + 1) same),
        Keyed.ofPairs]

theorem SpellsPadded.reads {depth : Nat} {text : List Char} {value : Json} :
    SpellsPadded limits depth text value →
      ∀ frames : List Frame, frames.length = depth → ReadsPadded limits frames text value
  | .mk before spelled after, _, same =>
      ⟨_, _, _, rfl, before, spelled.reads _ same, after⟩

theorem SpellsElements.run_end {depth : Nat} {text : List Char} {elements : List Json} :
    SpellsElements limits depth text elements →
      ∀ {frames : List Frame} {before : List Json} {rest : List Char}, frames.length + 1 = depth →
        run limits ⟨frames, .element before⟩ (text ++ ']' :: rest) =
          run limits (deliver frames (.array (before.reverse ++ elements))) rest
  | .last spelled, frames, before, rest, same => by
      have ends := ends_of_mark (.inr (.inl rfl)) rest
      rw [(spelled.reads (.array before :: frames) same).run_element ends,
        run_cons (deliver frames (.array (_ :: before).reverse)) rfl, List.reverse_cons]
  | .more spelled further, frames, before, rest, same => by
      rw [List.append_assoc, List.cons_append,
        (spelled.reads (.array before :: frames) same).run_element (ends_of_mark (.inl rfl) _),
        run_cons (⟨frames, .element (_ :: before)⟩) rfl, further.run_end same,
        List.reverse_cons, List.append_assoc, List.singleton_append]

theorem SpellsMembers.run_end {depth : Nat} {text : List Char} {members : List (String × Json)} :
    SpellsMembers limits depth text members →
      ∀ {frames : List Frame} {before : List (String × Json)} {rest : List Char},
        frames.length + 1 = depth →
        run limits ⟨frames, .key before⟩ (text ++ '\x7d' :: rest) =
          run limits (deliver frames (.object
            (members.foldl (fun entries pair => Keyed.put entries pair.1 pair.2) before))) rest
  | .last named spelled, frames, before, rest, same => by
      have ends := ends_of_mark (.inr (.inr rfl)) rest
      rw [List.append_assoc, List.cons_append, named.run_key,
        (spelled.reads (.object before _ :: frames) same).run_value ends]
      exact run_cons _ rfl
  | .more named spelled further, frames, before, rest, same => by
      simp only [List.append_assoc, List.cons_append]
      rw [named.run_key,
        (spelled.reads (.object before _ :: frames) same).run_value (ends_of_mark (.inl rfl) _)]
      exact (run_cons _ rfl).trans (further.run_end same)

end

/-- A text that is spelled within the limits of a reader is read as what it spells. -/
theorem parseWithin_of_spells {text : List Char} {value : Json}
    (spelled : Spells limits text value) : parseWithin limits text = .ok value := by
  have reads : ReadsPadded limits [] text value := SpellsPadded.reads spelled [] rfl
  have textRun := reads.run_value ends_nil
  rw [List.append_nil] at textRun
  rw [parseWithin, State.initial, textRun]
  rfl

theorem parse_of_spells {text : List Char} {value : Json} (spelled : Spells .standard text value) :
    parse text = .ok value :=
  parseWithin_of_spells spelled

/-- No text spells two values, whatever limits they are spelled within. -/
theorem Spells.unique {first second : Limits} {text : List Char} {a b : Json}
    (spellsA : Spells first text a) (spellsB : Spells second text b) : a = b := by
  let wide : Limits := ⟨max first.digits second.digits, max first.depth second.depth⟩
  have readA : parseWithin wide text = .ok a :=
    parseWithin_of_spells (spellsA.widen ⟨Nat.le_max_left .., Nat.le_max_left ..⟩)
  have readB : parseWithin wide text = .ok b :=
    parseWithin_of_spells (spellsB.widen ⟨Nat.le_max_right .., Nat.le_max_right ..⟩)
  rw [readA] at readB
  exact Except.ok.inj readB

end DocHighlight.Json
