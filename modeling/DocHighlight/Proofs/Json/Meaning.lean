import DocHighlight.Proofs.Json.Printing
import DocHighlight.Proofs.Text.Utf8

/-!
# What bytes mean

Bytes that spell a text in UTF-8 mean the value that the text spells within some limits; they never
mean two. The bytes of any written value mean something: the value itself, but for floating-point
numbers, of which those that are not finite turn into `null` and the others are read from their
decimal digits.
-/

namespace DocHighlight

namespace Binary64

/-- Whether a number is neither infinite nor undefined. -/
def isFinite : Binary64 → Bool
  | .finite .. => true
  | .nan | .infinite _ => false

theorem digits_trim_ne_zero {fuel : Nat} {decimal : Decimal} (positive : decimal.digits ≠ 0) :
    (decimal.trim fuel).digits ≠ 0 := by
  induction fuel generalizing decimal with
  | zero => exact positive
  | succ fuel ih =>
      rw [Decimal.trim]
      split
      · exact ih (by simp only; omega)
      · exact positive

theorem interval_low_pos {mantissa : Nat} (positive : mantissa ≠ 0) (exponent : Int) :
    0 < (interval mantissa exponent).low := by
  apply Nat.mul_pos
  · split <;> omega
  · exact Nat.pow_pos (by decide)

/-- Zero does not round to a positive number. -/
theorem ne_zero_of_holds {around : Interval} (lowPos : 0 < around.low) {digits : Nat} {scale : Int}
    (holds : around.holds digits scale = true) : digits ≠ 0 := by
  rintro rfl
  have low : 0 < around.low * Nat.pow 10 (-scale).toNat :=
    Nat.mul_pos lowPos (Nat.pow_pos (by decide))
  simp only [Interval.holds, Nat.zero_mul] at holds
  split at holds
  · simp only [Bool.and_eq_true, decide_eq_true_eq] at holds
    omega
  · simp at holds

theorem ne_zero_of_atPrecision {around : Interval} (lowPos : 0 < around.low) {count : Nat}
    {decimal : Decimal} (found : around.atPrecision count = some decimal) : decimal.digits ≠ 0 := by
  have either : ∀ (first second : Nat) (scale : Int),
      (if around.holds first scale then some ⟨first, scale⟩
        else if around.holds second scale then some ⟨second, scale⟩ else none) = some decimal →
      decimal.digits ≠ 0 := by
    intro first second scale found
    split at found
    · rename_i holds
      cases found
      exact ne_zero_of_holds lowPos holds
    split at found
    · rename_i holds
      cases found
      exact ne_zero_of_holds lowPos holds
    · cases found
  exact either _ _ _ found

/-- A positive number is written with a digit that is not zero. -/
theorem digits_shortest_ne_zero {mantissa : Nat} (positive : mantissa ≠ 0) (exponent : Int) :
    (shortest mantissa exponent).digits ≠ 0 := by
  apply digits_trim_ne_zero
  cases found : (List.range 17).findSome? fun count =>
      (interval mantissa exponent).atPrecision (count + 1) with
  | none => exact positive
  | some decimal =>
      rcases List.exists_of_findSome?_eq_some found with ⟨count, -, atCount⟩
      exact ne_zero_of_atPrecision (interval_low_pos positive exponent) atCount

end Binary64

namespace Json

theorem digits_append {first second : List Char} (firstDigits : Digits first)
    (secondDigits : Digits second) : Digits (first ++ second) := by
  intro c mem
  rcases List.mem_append.mp mem with mem | mem
  · exact firstDigits c mem
  · exact secondDigits c mem

theorem digits_zeros (count : Nat) : Digits (List.replicate count '0') := by
  intro c mem
  rw [(List.mem_replicate.mp mem).2]
  rfl

theorem exists_fraction {digits : List Char} (only : Digits digits) (some : digits ≠ []) :
    Fraction ('.' :: digits) digits := by
  cases digits with
  | nil => exact absurd rfl some
  | cons first rest => exact .some only

section Magnitude

variable {limits : Limits} {negative : Bool} {decimal : Decimal}

theorem spells_withExponent (wide : 16 ≤ limits.digits) {first : Char} {rest : List Char}
    (digits : Digits (first :: rest)) (notZero : first ≠ '0') (exponent : Int) :
    ∃ value, SpellsNumber limits
      (minus negative ++ outputLayout.withExponent (first :: rest) exponent) (.float value) := by
  have one : Digits [first] := fun c mem => digits c (List.mem_cons.mpr (.inl (by simpa using mem)))
  have whole : Whole limits [first] := .positive one notZero (by simp; omega)
  have tail : Digits rest := fun c mem => digits c (List.mem_cons_of_mem _ mem)
  obtain ⟨more, fraction⟩ : ∃ more,
      Fraction (if rest.isEmpty then [] else '.' :: rest) more := by
    cases rest with
    | nil => exact ⟨[], .none⟩
    | cons second rest => exact ⟨_, exists_fraction tail (by simp)⟩
  obtain ⟨scale, exponents⟩ : ∃ scale, Exponent
      ('e' :: (if exponent < 0 then '-' else '+') ::
        (List.replicate (1 - (NumberLayout.decimalDigits exponent.natAbs).length) '0' ++
          NumberLayout.decimalDigits exponent.natAbs)) scale := by
    have all := digits_append
      (digits_zeros (1 - (NumberLayout.decimalDigits exponent.natAbs).length))
      (digits_decimalDigits exponent.natAbs)
    have some : List.replicate (1 - (NumberLayout.decimalDigits exponent.natAbs).length) '0' ++
        NumberLayout.decimalDigits exponent.natAbs ≠ [] := by
      simp [NumberLayout.decimalDigits, Nat.toDigits_ne_nil]
    generalize List.replicate _ '0' ++ NumberLayout.decimalDigits exponent.natAbs = size at all some
    cases size with
    | nil => exact absurd rfl some
    | cons digit more =>
        split
        · exact ⟨_, .some (.inl rfl) .minus all⟩
        · exact ⟨_, .some (.inl rfl) .plus all⟩
  have spelled := SpellsNumber.float negative whole fraction exponents (by simp)
  exact ⟨_, by simpa [NumberLayout.withExponent, outputLayout] using spelled⟩

theorem spells_small {digits : List Char} (only : Digits digits) (some : digits ≠ [])
    (zeros : Nat) :
    ∃ value, SpellsNumber limits
      (minus negative ++ '0' :: '.' :: (List.replicate zeros '0' ++ digits)) (.float value) := by
  have fraction := exists_fraction (digits_append (digits_zeros zeros) only) (by simp [some])
  have spelled := @SpellsNumber.float limits negative _ _ _ _ _ .zero fraction .none (by simp)
  exact ⟨_, by simpa using spelled⟩

theorem spells_withPoint {first : Char} {rest : List Char} (digits : Digits (first :: rest))
    (notZero : first ≠ '0') {before : Nat} (fits : before + 1 ≤ limits.digits) :
    ∃ value, SpellsNumber limits
      (minus negative ++ NumberLayout.withPoint (first :: rest) (before + 1)) (.float value) := by
  have taken : Digits (rest.take before) :=
    fun c mem => digits c (List.mem_cons_of_mem _ (List.mem_of_mem_take mem))
  have whole : Whole limits (first :: (rest.take before ++
      List.replicate (before + 1 - (first :: rest).length) '0')) := by
    apply Whole.positive _ notZero
    · simp only [List.length_append, List.length_take, List.length_replicate, List.length_cons]
      omega
    · rw [← List.cons_append]
      apply digits_append _ (digits_zeros _)
      rw [← List.take_succ_cons]
      intro c mem
      exact digits c (List.mem_of_mem_take mem)
  obtain ⟨more, fraction⟩ : ∃ more, Fraction
      ('.' :: (if (rest.drop before).isEmpty then ['0'] else rest.drop before)) more := by
    split
    · exact ⟨_, exists_fraction (digits_zeros 1) (by simp)⟩
    · rename_i some
      exact ⟨_, exists_fraction
        (fun c mem => digits c (List.mem_cons_of_mem _ (List.mem_of_mem_drop mem)))
        (by simpa using some)⟩
  have spelled := SpellsNumber.float negative whole fraction .none (by simp)
  exact ⟨_, by simpa [NumberLayout.withPoint] using spelled⟩

theorem spells_magnitude (wide : 16 ≤ limits.digits) (positive : decimal.digits ≠ 0) :
    ∃ value, SpellsNumber limits (minus negative ++ outputLayout.magnitude decimal)
      (.float value) := by
  rcases decimalDigits_of_pos positive with ⟨first, rest, same, notZero⟩
  have digits := digits_decimalDigits decimal.digits
  simp only [NumberLayout.magnitude]
  rw [same] at digits ⊢
  generalize decimal.scale + ((first :: rest).length : Int) - 1 = exponent
  split
  · exact spells_withExponent wide digits notZero exponent
  · rename_i positional
    have greatest : outputLayout.greatestPositional = 15 := rfl
    split
    · exact spells_small digits (by simp) _
    · exact spells_withPoint digits notZero (by omega)

end Magnitude

/-- The text of a finite number is a number, and not an integer. -/
theorem exists_spellsNumber_float {limits : Limits} (wide : 16 ≤ limits.digits) (negative : Bool)
    (mantissa : Nat) (exponent : Int) :
    ∃ value, SpellsNumber limits (outputLayout.float (.finite negative mantissa exponent))
      (.float value) := by
  rw [NumberLayout.float]
  by_cases zero : mantissa = 0
  · rw [if_pos zero]
    exact spells_small (digits_zeros 1) (by simp) 0
  · rw [if_neg zero]
    exact spells_magnitude wide (Binary64.digits_shortest_ne_zero zero exponent)

/-- What the text of a floating-point number may mean. -/
def IsWrittenFloat (value : Json) : Prop :=
  value = .null ∨ ∃ number, value = .float number

theorem exists_spells_float (x : Binary64) :
    ∃ value, IsWrittenFloat value ∧ (value = .null ↔ x.isFinite = false) ∧
      ∀ limits : Limits, 16 ≤ limits.digits →
        ∀ depth ≤ limits.depth, SpellsValue limits depth (outputLayout.float x) value := by
  cases x with
  | nan =>
      exact ⟨.null, .inl rfl, iff_of_true rfl rfl, fun limits _ depth fits => .word fits (.head _)⟩
  | infinite negative =>
      refine ⟨.null, .inl rfl, iff_of_true rfl rfl, fun limits _ depth fits => ?_⟩
      cases negative <;> exact .word fits (.head _)
  | finite negative mantissa exponent =>
      rcases @exists_spellsNumber_float ⟨16, 0⟩ (Nat.le_refl _) negative mantissa exponent with
        ⟨value, spelled⟩
      refine ⟨.float value, .inr ⟨value, rfl⟩, iff_of_false Json.noConfusion Bool.noConfusion,
        fun limits wide depth fits => .number fits ?_⟩
      exact spelled.widen ⟨wide, Nat.zero_le _⟩

/-- The text of a value spells that value, with something in the place of its floating-point numbers
that depends on each number alone: `null` exactly for a number that is not finite. -/
theorem exists_spells_write :
    ∃ number : Binary64 → Json, (∀ x, IsWrittenFloat (number x)) ∧
      (∀ x, number x = .null ↔ x.isFinite = false) ∧
      ∀ limits : Limits, 16 ≤ limits.digits → ∀ value : Json, value.DistinctKeys →
        value.FitsIn limits → Spells limits value.write (value.withFloats number) := by
  rcases Classical.axiomOfChoice exists_spells_float with ⟨number, all⟩
  refine ⟨number, fun x => (all x).1, fun x => (all x).2.1, ?_⟩
  intro limits wide value distinct fits
  apply spellsPadded_of_spellsValue
  apply spellsValue_write distinct fits.digits _ fits.nesting
  intro part _ x _ depth within
  exact (all x).2.2 limits wide depth within

/-- Bytes mean the value that their text spells. -/
def Means (bytes : List UInt8) (value : Json) : Prop :=
  ∃ text limits, Text.Utf8.decode bytes = .ok text ∧ Spells limits text value

/-- No bytes mean two values. -/
theorem Means.unique {bytes : List UInt8} {first second : Json} (meansFirst : Means bytes first)
    (meansSecond : Means bytes second) : first = second := by
  rcases meansFirst with ⟨text, limits, decoded, spellsFirst⟩
  rcases meansSecond with ⟨same, others, again, spellsSecond⟩
  rw [decoded] at again
  cases again
  exact spellsFirst.unique spellsSecond

theorem exists_digit_bound (values : List Json) :
    ∃ bound, 16 ≤ bound ∧ ∀ value ∈ values, value.digitCount ≤ bound := by
  induction values with
  | nil => exact ⟨16, Nat.le_refl _, by simp⟩
  | cons value values ih =>
      rcases ih with ⟨bound, wide, all⟩
      refine ⟨max value.digitCount bound, by omega, ?_⟩
      intro other mem
      rcases List.mem_cons.mp mem with rfl | mem
      · exact Nat.le_max_left ..
      · exact Nat.le_trans (all other mem) (Nat.le_max_right ..)

/-- The bytes of a written value mean that value, with something in the place of its floating-point
numbers that depends on each number alone. -/
theorem exists_means_write :
    ∃ number : Binary64 → Json, (∀ x, IsWrittenFloat (number x)) ∧
      ∀ value : Json, value.DistinctKeys →
        Means (Text.Utf8.encode value.write) (value.withFloats number) := by
  rcases exists_spells_write with ⟨number, written, -, spells⟩
  refine ⟨number, written, fun value distinct => ?_⟩
  rcases exists_digit_bound value.parts with ⟨bound, wide, digits⟩
  have fits : value.FitsIn ⟨bound, value.height⟩ := ⟨Nat.le_succ _, digits⟩
  exact ⟨value.write, _, Text.Utf8.decode_encode _, spells _ wide value distinct fits⟩

/-- Without floating-point numbers the bytes of a written value mean just that value. -/
theorem means_write {value : Json} (distinct : value.DistinctKeys) (integral : value.Integral) :
    Means (Text.Utf8.encode value.write) value := by
  rcases exists_means_write with ⟨number, -, means⟩
  have meant := means value distinct
  rwa [withFloats_eq_self integral] at meant

end Json

end DocHighlight
