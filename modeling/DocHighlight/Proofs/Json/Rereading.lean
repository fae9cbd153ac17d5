import DocHighlight.Proofs.Json.Invariant
import DocHighlight.Proofs.Json.Meaning

/-!
# Reading what was written

A reader with wider limits takes every step that one with narrower limits takes, so it reads the
same values. Since the text of any value is read within limits that are wide enough, it is known
what a reader with fixed limits can make of that text: the value with its floating-point numbers as
they are spelled, as long as the value is not too deep, and nothing at all otherwise.
-/

namespace DocHighlight.Json

section Wider

variable {narrow wide : Limits} (within : narrow.Within wide)

include within

theorem beginValue_widen {frames : List Frame} {c : Char} {next : State}
    (begun : beginValue narrow frames c = .ok next) : beginValue wide frames c = .ok next := by
  have depth := within.depth
  unfold beginValue at begun ⊢
  by_cases deep : narrow.depth < frames.length
  · rw [if_pos deep] at begun
    cases begun
  · rw [if_neg deep] at begun
    rwa [if_neg (by omega)]

theorem stepBetween_widen {frames : List Frame} {mode : Mode} {c : Char} {next : State}
    (taken : stepBetween narrow frames mode c = .ok next) :
    stepBetween wide frames mode c = .ok next := by
  unfold stepBetween at taken ⊢
  by_cases space : isSpace c = true
  · rwa [if_pos space] at taken ⊢
  rw [if_neg space] at taken ⊢
  -- Only what begins a value looks at the limits.
  cases mode with
  | value => exact beginValue_widen within taken
  | element before =>
      simp only at taken ⊢
      by_cases bracket : c = ']'
      · rwa [if_pos bracket] at taken ⊢
      · rw [if_neg bracket] at taken ⊢
        exact beginValue_widen within taken
  | _ => exact taken

theorem stepNumber_widen {frames : List Frame} {part : NumberPart} {numeral : Numeral} {c : Char}
    {next : State} (taken : stepNumber narrow frames part numeral c = .ok next) :
    stepNumber wide frames part numeral c = .ok next := by
  have after : ∀ part, stepAfterDigits narrow frames part numeral c = .ok next →
      stepAfterDigits wide frames part numeral c = .ok next := by
    intro part taken
    unfold stepAfterDigits at taken ⊢
    by_cases point : (c = '.' && part ≠ .fraction) = true
    · rwa [if_pos point] at taken ⊢
    rw [if_neg point] at taken ⊢
    by_cases mark : (c = 'e' || c = 'E') = true
    · rwa [if_pos mark] at taken ⊢
    rw [if_neg mark] at taken ⊢
    exact stepBetween_widen within taken
  cases found : digit? c with
  | none =>
      cases part <;> simp only [stepNumber, found] at taken ⊢
      case zero | whole | fraction => exact after _ taken
      case exponentDigits => exact stepBetween_widen within taken
      all_goals exact taken
  | some digit =>
      cases part <;> simp only [stepNumber, found] at taken ⊢
      case whole =>
        split at taken
        · rename_i room
          rw [if_pos (Nat.lt_of_lt_of_le room within.digits)]
          exact taken
        · cases taken
      case sign => cases digit <;> exact taken
      all_goals exact taken

/-- A reader with wider limits takes the same steps. -/
theorem step_widen {state next : State} {c : Char} (taken : step narrow state c = .ok next) :
    step wide state c = .ok next := by
  rcases state with ⟨frames, mode⟩
  cases mode with
  | string role part done => exact taken
  | number part numeral => exact stepNumber_widen within taken
  | word value rest =>
      cases rest with
      | nil => exact stepBetween_widen within taken
      | cons due rest => exact taken
  | _ => exact stepBetween_widen within taken

theorem run_widen {text : List Char} {state : State} {value : Json}
    (read : run narrow state text = .ok value) : run wide state text = .ok value := by
  induction text generalizing state with
  | nil => exact read
  | cons c rest ih =>
      rw [run] at read ⊢
      cases taken : step narrow state c with
      | error cause =>
          rw [taken] at read
          cases read
      | ok next =>
          rw [taken] at read
          rw [step_widen within taken]
          exact ih read

/-- What is read within limits is read within wider ones. -/
theorem parseWithin_widen {text : List Char} {value : Json}
    (read : parseWithin narrow text = .ok value) : parseWithin wide text = .ok value := by
  rw [parseWithin] at read ⊢
  cases ran : run narrow .initial text with
  | error failure =>
      rw [ran] at read
      cases read
  | ok result =>
      rw [ran] at read
      rw [run_widen within ran]
      exact read

end Wider

/-- No text is read as one value and spells another. -/
theorem eq_of_spells {first second : Limits} {text : List Char} {value spelled : Json}
    (read : parseWithin first text = .ok value) (spells : Spells second text spelled) :
    value = spelled := by
  let wide : Limits := ⟨max first.digits second.digits, max first.depth second.depth⟩
  have readWide : parseWithin wide text = .ok value :=
    parseWithin_widen ⟨Nat.le_max_left .., Nat.le_max_left ..⟩ read
  have readSpelled : parseWithin wide text = .ok spelled :=
    parseWithin_of_spells (spells.widen ⟨Nat.le_max_right .., Nat.le_max_right ..⟩)
  rw [readWide] at readSpelled
  exact Except.ok.inj readSpelled

theorem height_withFloats {number : Binary64 → Json} (written : ∀ x, IsWrittenFloat (number x))
    (value : Json) : (value.withFloats number).height = value.height := by
  induction value using induct with
  | float x =>
      have flat : (number x).height = 1 := by
        rcases written x with same | ⟨y, same⟩ <;> rw [same] <;> rfl
      exact flat
  | array elements ih => rw [withFloats_array, height_array_map ih]
  | object members ih => rw [withFloats_object, height_object_map ih]
  | _ => rfl

/-- The text of a value without overlong integers is read exactly if the value is not too deep, as
the value with something in the place of its floating-point numbers: `null` for those that are not
finite. -/
theorem exists_parse_write_iff :
    ∃ number : Binary64 → Json, (∀ x, IsWrittenFloat (number x)) ∧
      (∀ x, number x = .null ↔ x.isFinite = false) ∧
      ∀ value : Json, value.DistinctKeys →
        (∀ part ∈ value.parts, part.digitCount ≤ Limits.standard.digits) →
        ∀ read, parse value.write = .ok read ↔
          value.height ≤ 201 ∧ read = value.withFloats number := by
  rcases exists_spells_write with ⟨number, written, nullIff, spells⟩
  have wide : 16 ≤ Limits.standard.digits := by decide
  refine ⟨number, written, nullIff, fun value distinct digits read => ⟨fun parsed => ?_, ?_⟩⟩
  · let deep : Limits := ⟨Limits.standard.digits, value.height⟩
    have fits : value.FitsIn deep := ⟨Nat.le_succ _, digits⟩
    have same := eq_of_spells parsed (spells deep wide value distinct fits)
    have shallow := height_le_of_parse parsed
    rw [same, height_withFloats written] at shallow
    exact ⟨shallow, same⟩
  · rintro ⟨shallow, rfl⟩
    exact parse_of_spells (spells .standard wide value distinct ⟨shallow, digits⟩)

end DocHighlight.Json
