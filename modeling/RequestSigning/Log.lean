import RequestSigning.Text.Characters

/-!
# The log

What a computation reports while it runs. `Logged` pairs a computation's value with the events
it emits, in order; the events never decide the value.

Keeping the events beside the value, and not sending them anywhere, is what lets two runs be
compared: that a secret is not logged is an equation between lists of events. The simp lemmas take
values and events through the monad's operations, so proofs do not open it.
-/

namespace RequestSigning

/-- How serious an event is, the most serious first. -/
inductive LogLevel
  | error
  | warn
  | info
  | debug
  | trace
  deriving DecidableEq, Repr

namespace LogLevel

/-- The rank of a level; a greater one is less serious. -/
def rank : LogLevel → Nat
  | error => 1
  | warn => 2
  | info => 3
  | debug => 4
  | trace => 5

/-- The name of a level in a log line. -/
def name : LogLevel → String
  | error => "ERROR"
  | warn => "WARN"
  | info => "INFO"
  | debug => "DEBUG"
  | trace => "TRACE"

end LogLevel

/-- An **event**: its level, the part of the program it comes from, its words, and named values
already written out. -/
structure LogEvent where
  level : LogLevel
  target : String
  message : String
  fields : List (String × String)
  deriving DecidableEq, Repr

/-- The log line of an event. -/
def LogEvent.line (event : LogEvent) : String :=
  event.level.name ++ " " ++ event.target ++ ": " ++ event.message ++
    String.join (event.fields.map fun field => " " ++ field.1 ++ "=" ++ field.2)

/-- A value and the events emitted on the way to it. -/
structure Logged (α : Type) where
  value : α
  events : List LogEvent

namespace Logged

/-- Emits one event. -/
def emit (event : LogEvent) : Logged Unit := ⟨(), [event]⟩

instance : Monad Logged where
  pure a := ⟨a, []⟩
  bind x f := ⟨(f x.value).value, x.events ++ (f x.value).events⟩

@[simp] theorem value_pure {α : Type} (a : α) : (pure a : Logged α).value = a := rfl

@[simp] theorem events_pure {α : Type} (a : α) : (pure a : Logged α).events = [] := rfl

@[simp] theorem value_bind {α β : Type} (x : Logged α) (f : α → Logged β) :
    (x >>= f).value = (f x.value).value := rfl

@[simp] theorem events_bind {α β : Type} (x : Logged α) (f : α → Logged β) :
    (x >>= f).events = x.events ++ (f x.value).events := rfl

@[simp] theorem value_map {α β : Type} (f : α → β) (x : Logged α) :
    (f <$> x).value = f x.value := rfl

instance : LawfulMonad Logged :=
  LawfulMonad.mk' Logged (fun x => by cases x; simp [Functor.map]) (fun _ _ => rfl)
    (fun x f g => by simp [Bind.bind, List.append_assoc])

end Logged

end RequestSigning
