import Abacus.Session

/-!
# The console

On the console a session reads bytes and writes text. Its input is cut into lines at line
feeds; a carriage return in front of a line feed belongs to the line end, and a last line
without line feed counts. The conversation ends with a farewell, at `/exit` or at the end of the
input, unless a line is no UTF-8: then it breaks off where it stands.

- `Console.lines`: the lines of the input.
- `Transcript`: what is written, what is recorded, and how the conversation ends.
- `Console.run`: the conversation of a new session.
-/

namespace Abacus

/-- How a conversation ends. -/
inductive Ending where
  | farewell
  /-- A line was no UTF-8. -/
  | undecodable
  deriving DecidableEq, Repr

/-- The course of a conversation. -/
structure Transcript where
  output : Text
  events : List Event
  ending : Ending
  deriving DecidableEq, Repr

/-- What a turn writes: the text that is shown, on a line of its own. -/
def Turn.output (t : Turn) : Text :=
  match t.reply.text? with
  | some s => s ++ ['\n']
  | none => []

/-- What a line that was answered puts in front of the rest of a conversation. -/
def Transcript.after (rest : Transcript) (t : Turn) : Transcript :=
  { rest with
    output := t.output ++ rest.output
    events := t.events ++ rest.events }

namespace Console

/-- The line that stands in front of a line feed. -/
def withoutReturn (line : List UInt8) : List UInt8 :=
  if line.getLast? = some 13 then line.dropLast else line

/-- Cuts the input at its line feeds. The second argument is the part of the current line that
has been read, its last byte first. -/
def linesFrom (read : List UInt8) : List UInt8 → List (List UInt8)
  | [] => if read.isEmpty then [] else [read.reverse]
  | b :: bs =>
    if b = 10 then withoutReturn read.reverse :: linesFrom [] bs else linesFrom (b :: read) bs

/-- The lines of an input. -/
def lines (input : List UInt8) : List (List UInt8) :=
  linesFrom [] input

/-- The text that a line holds, if it is UTF-8. -/
def decode? (line : List UInt8) : Option Text :=
  (String.fromUTF8? ⟨line.toArray⟩).map String.toList

/-- What a line that was read leads to. -/
inductive Step where
  /-- The line was answered and the next one is read. -/
  | next (t : Turn)
  /-- The line was answered and no other is read. -/
  | last (t : Turn)
  /-- The line is no UTF-8. -/
  | broken
  deriving DecidableEq, Repr

/-- One line of a conversation. -/
def step (s : Session) (line : List UInt8) : Step :=
  match decode? line with
  | none => .broken
  | some text =>
    let t := s.turn text
    match t.reply with
    | .farewell _ => .last t
    | _ => .next t

/-- What ends a conversation whose input ends. -/
def atEnd : Transcript := ⟨farewellMessage ++ ['\n'], [.inputEnded], .farewell⟩

/-- The conversation of a session about a list of lines. -/
def converse (s : Session) : List (List UInt8) → Transcript
  | [] => atEnd
  | line :: rest =>
    match step s line with
    | .next t => (converse t.session rest).after t
    | .last t => Transcript.after ⟨[], [], .farewell⟩ t
    | .broken => ⟨[], [], .undecodable⟩

/-- The conversation of a new session about an input. -/
def run (limits : Limits) (input : List UInt8) : Transcript :=
  converse (Session.new limits) (lines input)

end Console

end Abacus
