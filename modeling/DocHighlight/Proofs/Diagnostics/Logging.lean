import DocHighlight.Diagnostics.Logger
import Mathlib.Data.List.Induction

/-!
# What is logged, however often logging is configured

Whatever calls there have been, the family stands as the last request that was not refused has left
it: with one handler, whose level is the level of the family. So a record of the family is written
once or not at all, as this level asks for. Loggers outside the family write what they would write
if nothing had ever been configured.

Which loggers belong to the family is a matter of names. Whether a name with an empty word in it
belongs there depends on the loggers that are in use, but never on what has been configured.

`Stands` is how the family stands when it was configured with a level, or was never configured. It
is kept by each `Call`, so it holds after all of them.
-/

namespace DocHighlight.Diagnostics

/-- Something that is asked of the loggers. -/
inductive Call where
  | configure (request : LevelRequest)
  | record (logger : String) (level : Int) (message : String)

namespace Call

/-- The level that a call configures the family with, unless the call is refused. -/
def level? : Call → Option Int
  | .configure request => request.resolve.toOption
  | .record .. => none

def isRecord : Call → Bool
  | .configure _ => false
  | .record .. => true

end Call

namespace LogState

/-- The state after a call. A request that is refused leaves what its steps have left. -/
def step (state : LogState) : Call → LogState
  | .configure request => ((configuring request).run.run state).2
  | .record logger level message => (state.log logger level message).1

/-- The state after some calls, in order. -/
def after (calls : List Call) : LogState :=
  calls.foldl step initial

/-- How the family stands when it was configured with a level, or was not configured yet. -/
inductive Stands : LogState → Option Int → Prop where
  | unconfigured (inUse : List String) : Stands ⟨0, [], inUse⟩ none
  | configured (level : Int) (inUse : List String) : Stands ⟨level, [level], inUse⟩ (some level)

end LogState

/-- The level of the last call that has configured the family. -/
def lastLevel? (calls : List Call) : Option Int :=
  calls.reverse.findSome? Call.level?

/-- The least level of the records that are written, by the level that the family was configured
with. -/
def threshold : Option Int → Int
  | some level => if level = 0 then warningLevel else level
  | none => warningLevel

/-- The one line of a record: bare, if the family was not configured. -/
def recordLine (configured : Option Int) (level : Int) (message : String) : String :=
  match configured with
  | some _ => formattedLine level message
  | none => message ++ "\n"

/-- The name of the family, or its name and words that are not empty, with a dot before each. -/
inductive ProperName : String → Prop where
  | family : ProperName familyName
  | child {name word : String} (above : ProperName name) (notEmpty : word ≠ "")
      (noDot : '.' ∉ word.toList) : ProperName (name ++ "." ++ word)

section Names

variable {inUse : List String}

theorem leadsToFamily_of_ne {c : Char} (noDot : c ≠ '.') (rest : List Char) :
    leadsToFamily inUse (c :: rest) = leadsToFamily inUse rest := by
  rw [leadsToFamily]
  intro other more dot
  exact absurd dot noDot

/-- The way up from a logger starts at the last dot of its name. -/
theorem leadsToFamily_append {word : List Char} (noDot : '.' ∉ word) (rest : List Char) :
    leadsToFamily inUse (word ++ rest) = leadsToFamily inUse rest := by
  induction word with
  | nil => rfl
  | cons c others ih =>
      rw [List.mem_cons, not_or] at noDot
      rw [List.cons_append, leadsToFamily_of_ne (Ne.symm noDot.1), ih noDot.2]

/-- A child's name from its end. -/
theorem toList_child (name word : String) :
    (name ++ "." ++ word).toList.reverse = word.toList.reverse ++ '.' :: name.toList.reverse := by
  simp

theorem ProperName.exists_last {name : String} (proper : ProperName name) :
    ∃ c rest, name.toList.reverse = c :: rest ∧ c ≠ '.' := by
  cases proper with
  | family => exact ⟨'t', "hgilecnef".toList, rfl, by decide⟩
  | @child name word above notEmpty noDot =>
      rw [toList_child]
      cases last : word.toList.reverse with
      | nil => simp [notEmpty] at last
      | cons c rest =>
          have mem : c ∈ word.toList := by
            rw [← List.mem_reverse, last]
            exact List.mem_cons_self ..
          refine ⟨c, rest ++ '.' :: name.toList.reverse, rfl, ?_⟩
          rintro rfl
          exact noDot mem

/-- Whatever loggers are in use, a logger with a proper name belongs to the family. -/
theorem ProperName.isFamily {name : String} (proper : ProperName name) :
    isFamily inUse name = true := by
  induction proper with
  | family => simp [Diagnostics.isFamily]
  | @child name word above notEmpty noDot ih =>
      rcases above.exists_last with ⟨c, rest, last, notDot⟩
      have nameEq : String.ofList (c :: rest).reverse = name := by
        rw [← last, List.reverse_reverse, String.ofList_toList]
      have wordNoDot : '.' ∉ word.toList.reverse := by
        simpa using noDot
      rw [Diagnostics.isFamily, toList_child, leadsToFamily_append wordNoDot, last, leadsToFamily,
        nameEq]
      -- The name above either is the family's, or leads to it from wherever the way goes on.
      by_cases first : name = familyName
      · simp [first]
      · have leads : leadsToFamily inUse (c :: rest) = true := by
          simpa [Diagnostics.isFamily, first, last] using ih
        have leadsRest : leadsToFamily inUse rest = true := by
          rwa [leadsToFamily_of_ne notDot] at leads
        simp [first, leads, leadsRest]

/-- The way up leads to the family only from below its name. -/
theorem exists_of_leadsToFamily {reversed : List Char}
    (leads : leadsToFamily inUse reversed = true) :
    ∃ below, reversed = below ++ '.' :: familyName.toList.reverse := by
  fun_induction leadsToFamily inUse reversed with
  | case1 => cases leads
  | case2 c rest above familyEq =>
      have aboveEq : (c :: rest).reverse = familyName.toList := by
        rw [← familyEq, String.toList_ofList]
      exact ⟨[], by rw [← aboveEq, List.reverse_reverse]; rfl⟩
  | case3 c rest above other known ih =>
      rcases ih leads with ⟨below, written⟩
      exact ⟨'.' :: below, by rw [written]; rfl⟩
  | case4 c rest above other unknown ih =>
      rcases ih leads with ⟨below, written⟩
      exact ⟨'.' :: c :: below, by rw [written]; rfl⟩
  | case5 c rest noDot ih =>
      rcases ih leads with ⟨below, written⟩
      exact ⟨c :: below, by rw [written]; rfl⟩

theorem eq_or_exists_of_isFamily {logger : String} (family : isFamily inUse logger = true) :
    logger = familyName ∨ ∃ rest, logger = familyName ++ "." ++ rest := by
  rw [isFamily, Bool.or_eq_true, decide_eq_true_eq] at family
  apply family.imp_right
  intro leads
  rcases exists_of_leadsToFamily leads with ⟨below, written⟩
  refine ⟨String.ofList below.reverse, ?_⟩
  rw [← String.toList_inj, ← List.reverse_inj, toList_child, written, String.toList_ofList,
    List.reverse_reverse]

end Names

/-- Configuring is refused before anything has been done, or else all of it is done. -/
theorem run_configuring (request : LevelRequest) (state : LogState) :
    (LogState.configuring request).run.run state =
      match request.resolve with
      | .ok level => (.ok (), ⟨level, [level], state.inUse⟩)
      | .error refusal => (.error refusal, state) := by
  rw [LogState.configuring]
  cases request.resolve <;> rfl

namespace LogState

theorem inUse_step_configure (state : LogState) (request : LevelRequest) :
    (state.step (.configure request)).inUse = state.inUse := by
  rw [step, run_configuring]
  split <;> rfl

/-- What a call makes of the way in which the family stands. -/
theorem Stands.step {state : LogState} {last : Option Int} (stands : Stands state last)
    (call : Call) : Stands (state.step call) (call.level?.or last) := by
  cases call with
  | configure request =>
      rw [LogState.step, run_configuring, Call.level?]
      cases request.resolve with
      | ok level => exact .configured level state.inUse
      | error refusal => exact stands
  | record logger level message =>
      rw [LogState.step, log, use, Call.level?, Option.none_or]
      split
      · exact stands
      · cases stands with
        | unconfigured inUse => exact .unconfigured _
        | configured level inUse => exact .configured level _

theorem stands_after (calls : List Call) : Stands (after calls) (lastLevel? calls) := by
  induction calls using List.reverseRecOn with
  | nil => exact .unconfigured []
  | append_singleton earlier call ih =>
      have stateEq : after (earlier ++ [call]) = (after earlier).step call := by
        rw [after, List.foldl_append, ← after]
        rfl
      have lastEq : lastLevel? (earlier ++ [call]) = call.level?.or (lastLevel? earlier) := by
        rw [lastLevel?, List.reverse_concat, List.findSome?_cons]
        cases call.level? <;> rfl
      rw [stateEq, lastEq]
      exact ih.step call

theorem inUse_use (state : LogState) (logger : String) :
    (state.use logger).inUse =
      if state.inUse.contains logger then state.inUse else logger :: state.inUse := by
  rw [use]
  split <;> rfl

/-- The loggers that are in use are the same without the calls that configure. -/
theorem inUse_foldl {calls : List Call} {state other : LogState}
    (same : state.inUse = other.inUse) :
    (calls.foldl step state).inUse = ((calls.filter Call.isRecord).foldl step other).inUse := by
  induction calls generalizing state other with
  | nil => exact same
  | cons call calls ih =>
      cases call with
      | configure request =>
          rw [List.foldl_cons, List.filter_cons_of_neg (by simp [Call.isRecord])]
          exact ih ((inUse_step_configure state request).trans same)
      | record logger level message =>
          rw [List.foldl_cons, List.filter_cons_of_pos (by rfl), List.foldl_cons]
          apply ih
          rw [step, step, log, log, inUse_use, inUse_use, same]

/-- A record of the family is one line, if it reaches the level. -/
theorem Stands.write {state : LogState} {last : Option Int} (stands : Stands state last)
    {logger : String} {level : Int} (positive : 0 < level)
    (family : isFamily state.inUse logger = true) (message : String) :
    state.write logger level message =
      if threshold last ≤ level then recordLine last level message else "" := by
  have notSilent : ¬ level ≤ 0 := by omega
  rw [LogState.write, if_neg notSilent, family]
  cases stands with
  | unconfigured inUse =>
      by_cases reached : warningLevel ≤ level
      · simp [effectiveLevel, threshold, reached, lastResort, recordLine]
      · simp [effectiveLevel, threshold, reached, Int.not_le.mp reached]
  | configured own inUse =>
      have effectiveEq : effectiveLevel ⟨own, [own], inUse⟩ = threshold (some own) := by
        rfl
      rw [effectiveEq]
      by_cases reached : threshold (some own) ≤ level
      · have handled : own ≤ level := by
          rw [threshold] at reached
          split at reached <;> omega
        simp [reached, Int.not_lt.mpr reached, handled, recordLine]
      · simp [reached, Int.not_le.mp reached]

/-- What a logger outside the family writes depends on nothing. -/
theorem write_of_outside {state : LogState} {logger : String}
    (outside : isFamily state.inUse logger = false) (level : Int) (message : String) :
    state.write logger level message = if level ≤ 0 then "" else lastResort level message := by
  simp [write, outside]

end LogState

open LogState

/-- Whatever calls there have been, the family stands as the last request that was not refused has
left it, and a request that is refused leaves all as it was. A record of the family is written as
one line if its level is reached, and else not at all. What other loggers write is the same without
the calls that configure, and so is which loggers these are: the loggers with proper names are of
the family, and those whose names do not begin with its name and a dot are not. -/
theorem logged_as_configured (calls : List Call) :
    Stands (after calls) (lastLevel? calls) ∧
      (∀ request refusal left,
        (configuring request).run.run (after calls) = (.error refusal, left) →
          left = after calls) ∧
      (∀ logger level message, 0 < level → isFamily (after calls).inUse logger = true →
        (after calls).write logger level message =
          if threshold (lastLevel? calls) ≤ level then recordLine (lastLevel? calls) level message
          else "") ∧
      (∀ logger level message, isFamily (after calls).inUse logger = false →
        (after calls).write logger level message =
          (after (calls.filter Call.isRecord)).write logger level message) ∧
      ∀ logger,
        isFamily (after (calls.filter Call.isRecord)).inUse logger =
            isFamily (after calls).inUse logger ∧
          (ProperName logger → isFamily (after calls).inUse logger = true) ∧
          (isFamily (after calls).inUse logger = true →
            logger = familyName ∨ ∃ rest, logger = familyName ++ "." ++ rest) := by
  have sameInUse : (after (calls.filter Call.isRecord)).inUse = (after calls).inUse :=
    (inUse_foldl rfl).symm
  refine ⟨stands_after calls, ?_, ?_, ?_, ?_⟩
  · intro request refusal left refused
    rw [run_configuring] at refused
    cases resolved : request.resolve with
    | ok level =>
        rw [resolved] at refused
        cases refused
    | error other =>
        rw [resolved] at refused
        exact (Prod.mk.inj refused).2.symm
  · intro logger level message positive family
    exact (stands_after calls).write positive family message
  · intro logger level message outside
    rw [write_of_outside outside, write_of_outside (sameInUse ▸ outside)]
  · intro logger
    exact ⟨by rw [sameInUse], ProperName.isFamily, eq_or_exists_of_isFamily⟩

/-- The family is configured twice, and a third request is refused. -/
def reconfigured : List Call :=
  [.record "fencelight..x" 40 "early", .configure (.word "Debug"), .configure (.number 20),
    .configure (.word "basic_format")]

/-- The second level is in force. It has one handler, and the logger whose name only begins like the
family's is not concerned. -/
theorem logged_as_configured_twice :
    Stands (after reconfigured) (some 20) ∧
      ((configuring (.word "_styles")).run.run (after reconfigured) =
          (.error .styles, ⟨20, [20], ["fencelight..x"]⟩) ∧
        ⟨20, [20], ["fencelight..x"]⟩ = after reconfigured) ∧
      (isFamily (after reconfigured).inUse "fencelight.core" = true ∧
        (after reconfigured).write "fencelight.core" 20 "done" = "INFO: done\n" ∧
        (after reconfigured).write "fencelight.core" 10 "done" = "") ∧
      (isFamily (after reconfigured).inUse "fencelightx" = false ∧
        (after reconfigured).write "fencelightx" 30 "done" =
          (after [.record "fencelight..x" 40 "early"]).write "fencelightx" 30 "done") ∧
      ProperName "fencelight.core" := by
  rcases logged_as_configured reconfigured with ⟨stands, refused, written, outside, names⟩
  have last : lastLevel? reconfigured = some 20 := by
    decide +kernel
  have styles : (configuring (.word "_styles")).run.run (after reconfigured) =
      (.error .styles, ⟨20, [20], ["fencelight..x"]⟩) := by
    rfl
  have proper : ProperName "fencelight.core" := by
    rw [show "fencelight.core" = familyName ++ "." ++ "core" from rfl]
    exact .child .family (by decide) (by decide)
  have notFamily : isFamily (after reconfigured).inUse "fencelightx" = false := by
    decide +kernel
  rw [last] at stands written
  exact ⟨stands, ⟨styles, refused _ _ _ styles⟩,
    ⟨(names _).2.1 proper, written _ 20 "done" (by decide) ((names _).2.1 proper),
      written _ 10 "done" (by decide) ((names _).2.1 proper)⟩,
    ⟨notFamily, outside _ _ _ notFamily⟩, proper⟩

end DocHighlight.Diagnostics
