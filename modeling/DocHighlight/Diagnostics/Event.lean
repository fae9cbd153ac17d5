import DocHighlight.Diagnostics.Level

/-!
# Events

What the program reports while it works. All events are of the level that helps to find errors; each
goes to a logger.
-/

namespace DocHighlight

/-- Something that is reported. -/
inductive Event where
  | registered (languages : List String)
  | decoded (blocks : Nat) (version : List Int)
  | unsupported (language : String)
  | highlighted (characters : Nat) (language : String)
deriving DecidableEq, Repr

namespace Event

def logger : Event → String
  | .registered _ => "fencelight.core.highlight"
  | .decoded .. => "fencelight.core.codec"
  | .unsupported _ | .highlighted .. => "fencelight.core.transform"

def message : Event → String
  | .registered languages =>
      "Registered " ++ toString languages.length ++ " grammar(s): " ++ ", ".intercalate languages
  | .decoded blocks version =>
      "Decoded " ++ toString blocks ++ " top-level block(s), pandoc-api-version " ++
        ".".intercalate (version.map toString)
  | .unsupported language =>
      "No grammar registered for '" ++ language ++ "'; leaving code block as-is"
  | .highlighted characters language =>
      "Highlighted " ++ toString characters ++ " char(s) of '" ++ language ++ "'"

def level (_ : Event) : Int :=
  Diagnostics.debugLevel

end Event

/-- A value together with the events on the way to it, in order. -/
structure Logged (α : Type) where
  value : α
  events : List Event

namespace Logged

def report (event : Event) : Logged Unit :=
  ⟨(), [event]⟩

instance : Monad Logged where
  pure value := ⟨value, []⟩
  bind first next :=
    let second := next first.value
    ⟨second.value, first.events ++ second.events⟩

instance : LawfulMonad Logged :=
  LawfulMonad.mk' _
    (fun _ => by simp [Functor.map])
    (fun _ _ => by simp [bind, pure])
    (fun _ _ _ => by simp [bind])

section Laws

variable {α β : Type}

@[simp]
theorem value_pure (value : α) : (pure value : Logged α).value = value :=
  rfl

@[simp]
theorem value_bind (first : Logged α) (next : α → Logged β) :
    (first >>= next).value = (next first.value).value :=
  rfl

end Laws

end Logged

end DocHighlight
