import Abacus.Evaluation

/-!
# Sessions

A session owns the store, answers one line at a time, and remembers how its last answer was
reached. Three lines are commands; every other line is evaluated. An error is shown and the
session goes on; only `/exit` asks for its end.

- `Command`: the three commands.
- `Reply`: what is to be done after a line.
- `Session.turn`: the reply to a line, the events, and the session after it.
- `Session.turns`: the turns of a list of lines, one after the other.
-/

namespace Abacus

/-! ### Commands -/

/-- A line with a meaning of its own. -/
inductive Command where
  | exit
  | help
  | print
  deriving DecidableEq, Repr

namespace Command

/-- The line that gives a command. -/
def text : Command → Text
  | .exit => "/exit".toList
  | .help => "/help".toList
  | .print => "/print".toList

/-- The command that a line gives, if it gives one. -/
def ofText? (s : Text) : Option Command :=
  [exit, help, print].find? fun c => c.text = s

theorem ofText?_eq_some_iff {s : Text} {c : Command} : ofText? s = some c ↔ s = c.text := by
  constructor
  · intro h
    have found := List.find?_some h
    exact (of_decide_eq_true found).symm
  · rintro rfl
    cases c <;> rfl

end Command

/-- What `/help` shows. -/
def helpMessage : Text := "The program calculates the sum of numbers".toList

/-- What `/exit` shows. -/
def farewellMessage : Text := "Bye!".toList

/-! ### Turns -/

/-- What is to be done after a line. -/
inductive Reply where
  /-- Nothing is shown. -/
  | silence
  /-- A value or a message is shown. -/
  | display (s : Text)
  /-- A message is shown and the session ends. -/
  | farewell (s : Text)
  deriving DecidableEq, Repr

/-- The text that a reply shows. -/
def Reply.text? : Reply → Option Text
  | .silence => none
  | .display s | .farewell s => some s

/-- The state of a session. -/
structure Session where
  store : Store := .empty
  limits : Limits := .standard
  /-- How the last line that was evaluated got its answer; nothing after an error. -/
  derivation : Derivation := .none
  deriving DecidableEq, Repr

/-- What one line leads to. -/
structure Turn where
  reply : Reply
  events : List Event
  session : Session
  deriving DecidableEq, Repr

namespace Session

/-- A session without variables. -/
def new (limits : Limits) : Session := { limits }

/-- The turn of a line that is no command. -/
def evaluate (s : Session) (line : Text) : Turn :=
  let evaluation := s.store.evaluate s.limits line
  match evaluation.outcome with
  | .ok answer =>
    { reply :=
        match answer.value? with
        | some v => .display (Decimal.ofInt v)
        | none => .silence
      events := evaluation.events
      session := { s with store := evaluation.store, derivation := answer.derivation } }
  | .error cause =>
    { reply := .display cause.message
      events := evaluation.events ++ [.refused line cause]
      session := { s with store := evaluation.store, derivation := .none } }

/-- The turn of a line; white space around it does not count. -/
def turn (s : Session) (line : Text) : Turn :=
  let line := line.trim
  match Command.ofText? line with
  | some .exit => ⟨.farewell farewellMessage, [.exitRequested], s⟩
  | some .help => ⟨.display helpMessage, [], s⟩
  | some .print => ⟨.display s.store.dump, [], s⟩
  | none => s.evaluate line

/-- The turns of a list of lines. -/
def turns (s : Session) : List Text → List Turn
  | [] => []
  | line :: lines =>
    let t := s.turn line
    t :: turns t.session lines

end Session

end Abacus
