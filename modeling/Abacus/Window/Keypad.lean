import Abacus.Window

/-!
# The keypad

Below the entry field stand the keys: three that forget, two that give a command, one that takes
back the last character, one that submits, and one for each character that can be inserted. Two
headers open and close a panel.

- `Window.press`: what a key does.
- `Window.focusDue_press`: every key asks for the focus.
- `Control.ofLabel?`: the key or header with a label.
-/

namespace Abacus

/-- A key of the window. -/
inductive Key where
  | clearEntry
  | clearHistory
  | reset
  /-- Replaces the entry by a command and submits it. -/
  | command (c : Command)
  /-- Takes back the last character that is not white. -/
  | erase
  | submit
  /-- Appends a character to the entry. -/
  | insert (c : Char)
  deriving DecidableEq, Repr

/-- The keys of the window. -/
def keypad : List Key :=
  [.clearEntry, .clearHistory, .reset, .command .print, .command .help, .erase, .submit]
    ++ "()+-*/^xy=7894561230".toList.map .insert

/-- What is written on a key. -/
def Key.label : Key → Text
  | .clearEntry => "C".toList
  | .clearHistory => "CLR".toList
  | .reset => "AC".toList
  | .command c => c.text
  | .erase => "DEL".toList
  | .submit => "↵".toList
  | .insert c => [c]

/-- The window after a key was pressed. -/
def Window.press (w : Window) : Key → Window
  | .clearEntry => w.clearEntry
  | .clearHistory => w.clearHistory
  | .reset => w.reset
  | .command c => (w.setEntry c.text).submit
  | .erase => { w with entry := w.entry.trimEnd.dropLast, focusDue := true }
  | .submit => w.submit
  | .insert c => { w with entry := w.entry ++ [c], focusDue := true }

/-- Every key asks for the focus to go back to the entry field. -/
theorem Window.focusDue_press (w : Window) (k : Key) : (w.press k).focusDue = true := by
  cases k with
  | command c => exact (w.setEntry c.text).focusDue_submit
  | submit => exact w.focusDue_submit
  | _ => rfl

/-- A part of the window that can be closed to its header. -/
inductive Panel where
  | variables
  | derivation
  deriving DecidableEq, Repr

/-- What is written on the header of a panel. -/
def Panel.label : Panel → Text
  | .variables => "Variables".toList
  | .derivation => "Démarche".toList

/-- Something that can be clicked. -/
inductive Control where
  | key (k : Key)
  | header (p : Panel)
  deriving DecidableEq, Repr

namespace Control

/-- All that can be clicked. -/
def all : List Control :=
  keypad.map .key ++ [.header .variables, .header .derivation]

def label : Control → Text
  | .key k => k.label
  | .header p => p.label

/-- The control with a label. -/
def ofLabel? (s : Text) : Option Control :=
  all.find? fun c => c.label = s

/-- Every control is found by its label, so no two controls share one. -/
theorem ofLabel?_label {c : Control} (h : c ∈ all) : ofLabel? c.label = some c := by
  revert c
  decide +kernel

end Control

end Abacus
