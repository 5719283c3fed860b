import Abacus.Window.Keypad

/-!
# The screen

The screen shows the window frame by frame. A frame takes in what happened since the one before
it, in a fixed order: Escape, Enter in the entry field, a click. The entry field is drawn behind
Escape, and takes the focus if that is due; Enter and the keys ask for it again, and so have to
wait for the next frame. A frame ends with a request to close the window if the user wants to quit.

- `Screen.frame`: one frame.
- `Screen.focusDue_frame`: after which frames the focus is due.
- `Screen.act`: one action of the user, in or between frames.
- `Screen.labels`: the texts on the screen, from top to bottom.
-/

namespace Abacus

/-- What happened since the last frame. -/
structure Frame where
  escape : Bool := false
  enter : Bool := false
  click : Option Control := none
  deriving DecidableEq, Repr

/-- The window and the state of what surrounds it. -/
structure Screen where
  window : Window := {}
  variablesOpen : Bool := true
  derivationOpen : Bool := false
  /-- The number of frames that have asked for the window to be closed. -/
  closeRequests : Nat := 0
  deriving DecidableEq, Repr

/-- Something that the user does. -/
inductive Action where
  /-- Types a text into the entry field, in the place of what is there. -/
  | enterText (s : Text)
  | submit
  | clearEntry
  | clearHistory
  | reset
  | frame (f : Frame)
  deriving DecidableEq, Repr

namespace Screen

/-- The screen as the window opens. -/
def new (limits : Limits) : Screen := { window := .new limits }

/-- Opens a panel that is closed, and closes one that is open. -/
def toggle (s : Screen) : Panel → Screen
  | .variables => { s with variablesOpen := !s.variablesOpen }
  | .derivation => { s with derivationOpen := !s.derivationOpen }

/-- The screen after a click. -/
def click (s : Screen) : Control → Screen
  | .key k => { s with window := s.window.press k }
  | .header p => s.toggle p

/-- The screen with the window changed. -/
def updateWindow (s : Screen) (f : Window → Window) : Screen :=
  { s with window := f s.window }

/-- The screen once its entry field is drawn. -/
def drawEntry (s : Screen) : Screen :=
  s.updateWindow .takeFocus

/-- What a frame ends with. -/
def endFrame (s : Screen) : Screen :=
  { s with closeRequests := s.closeRequests + if s.window.quitting then 1 else 0 }

/-- The screen after a frame. -/
def frame (s : Screen) (f : Frame) : Screen :=
  let s := if f.escape then s.updateWindow .clearEntry else s
  let s := s.drawEntry
  let s := if f.enter then s.updateWindow .submit else s
  let s := match f.click with
    | some c => s.click c
    | none => s
  s.endFrame

/-- After a frame the focus is due exactly if Enter or a key asked for it. -/
theorem focusDue_frame (s : Screen) (f : Frame) :
    (s.frame f).window.focusDue = true ↔ f.enter = true ∨ ∃ k, f.click = some (.key k) := by
  obtain ⟨escape, enter, click⟩ := f
  cases click with
  | none =>
    rw [or_iff_left nofun]
    cases enter with
    | false => exact ⟨nofun, nofun⟩
    | true => exact iff_of_true (Window.focusDue_submit _) rfl
  | some c =>
    cases c with
    | key k => exact iff_of_true (Window.focusDue_press _ k) (.inr ⟨k, rfl⟩)
    | header p =>
      rw [or_iff_left nofun]
      cases enter with
      | false => cases p <;> exact ⟨nofun, nofun⟩
      | true => cases p <;> exact iff_of_true (Window.focusDue_submit _) rfl

/-- The screen after an action. -/
def act (s : Screen) : Action → Screen
  | .enterText t => s.updateWindow (·.setEntry t)
  | .submit => s.updateWindow .submit
  | .clearEntry => s.updateWindow .clearEntry
  | .clearHistory => s.updateWindow .clearHistory
  | .reset => s.updateWindow .reset
  | .frame f => s.frame f

/-! ### What is on show -/

/-- The texts of the panel of variables. -/
def variableLabels (store : Store) : List Text :=
  if store.isEmpty then ["aucune".toList]
  else store.toList.flatMap fun b => [b.1, Decimal.ofInt b.2]

/-- The texts of the panel of the derivation. -/
def derivationLabels (d : Derivation) : List Text :=
  let sheet := d.sheet
  ["Normalisé :".toList, sheet.normalised, "Jetons :".toList, sheet.tokens,
   "Résolus :".toList, sheet.resolved, "RPN :".toList, sheet.postfixed,
   "Note :".toList, sheet.note]

/-- The texts of the history, the last exchange first. -/
def historyLabels (history : List Exchange) : List Text :=
  if history.isEmpty then ["(vide)".toList]
  else history.reverse.flatMap fun e => ('>' :: ' ' :: e.entry) :: e.output?.toList

/-- The texts on the screen, from top to bottom. The two empty ones are the blank places of the
keypad. -/
def labels (s : Screen) : List Text :=
  ["Calculatrice Z-pur".toList, "Entrée :".toList, [], []]
    ++ (if s.variablesOpen then variableLabels s.window.session.store else [])
    ++ (if s.derivationOpen then derivationLabels s.window.derivation else [])
    ++ "Historique :".toList :: historyLabels s.window.history

end Screen

end Abacus
