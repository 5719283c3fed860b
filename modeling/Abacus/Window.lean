import Abacus.Session

/-!
# The window

The window holds a session, the entry being typed, the exchanges made so far, and the
derivation on show. It knows nothing of the language of lines: what is typed goes to the
session as it is.

- `Window.submit`: sends the entry to the session and keeps the exchange.
- `Window.clearEntry`, `Window.clearHistory`, `Window.reset`: forget the entry, the exchanges
  with the derivation, or everything.
- `Window.remember`: the history keeps the last `historyMax` exchanges.
-/

namespace Abacus

/-- A line that was submitted and what was shown for it. -/
structure Exchange where
  entry : Text
  output? : Option Text
  deriving DecidableEq, Repr

/-- The number of exchanges that a window keeps. -/
def historyMax : Nat := 500

/-- The state of the window. -/
structure Window where
  /-- The text of the entry field. -/
  entry : Text := []
  session : Session := {}
  /-- The exchanges that are kept, the oldest first. -/
  history : List Exchange := []
  /-- The derivation on show. -/
  derivation : Derivation := .none
  /-- The end was asked for; nothing takes this back. -/
  quitting : Bool := false
  /-- The entry field is to get the keyboard focus. -/
  focusDue : Bool := true
  deriving DecidableEq, Repr

namespace Window

/-- The window as it opens. -/
def new (limits : Limits) : Window := { session := .new limits }

/-- Replaces the text of the entry field. -/
def setEntry (w : Window) (s : Text) : Window := { w with entry := s }

/-- The entry field has the focus that was due to it. -/
def takeFocus (w : Window) : Window := { w with focusDue := false }

/-- Empties the entry field. -/
def clearEntry (w : Window) : Window := { w with entry := [], focusDue := true }

/-- Forgets the exchanges and the derivation on show; the variables stay. -/
def clearHistory (w : Window) : Window :=
  { w with history := [], derivation := .none, focusDue := true }

/-- Forgets everything but the limits and a wish to quit. -/
def reset (w : Window) : Window :=
  { w with entry := [], session := .new w.session.limits }.clearHistory

/-- The history with one more exchange, cut to its last `historyMax`. -/
def remember (history : List Exchange) (e : Exchange) : List Exchange :=
  let longer := history ++ [e]
  longer.drop (longer.length - historyMax)

/-- Sends the entry to the session. A blank entry leaves no trace but an empty field. -/
def submit (w : Window) : Window :=
  let line := w.entry.trim
  let w := w.clearEntry
  if line = [] then w
  else
    let t := w.session.turn line
    { w with
      session := t.session
      history := remember w.history ⟨line, t.reply.text?⟩
      derivation := t.session.derivation
      quitting := w.quitting || t.reply matches .farewell _ }

/-- Whatever was in the entry field, the focus is due behind a submission. -/
theorem focusDue_submit (w : Window) : w.submit.focusDue = true := by
  rw [submit]
  split <;> rfl

/-- Submits lines one after the other. -/
def submitAll (w : Window) (lines : List Text) : Window :=
  lines.foldl (fun w line => (w.setEntry line).submit) w

/-- The length of the history is bounded. -/
theorem length_remember_le (history : List Exchange) (e : Exchange) :
    (remember history e).length ≤ historyMax := by
  simp only [remember, List.length_drop]
  omega

end Window

end Abacus
