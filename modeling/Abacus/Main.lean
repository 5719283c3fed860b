import Abacus.Program

/-!
# The command line program

Reads the arguments, the environment and the standard input, and writes what the library answers:
replies to the standard output, the journal to the standard error.
-/

namespace Abacus.Main

/-- Writes a text to a stream at once. -/
def put (stream : IO.FS.Stream) (s : Text) : IO Unit := do
  stream.putStr (String.ofList s)
  stream.flush

/-- Writes the lines of events that the journal records. -/
def putEvents (journal : Journal) (events : List Event) : IO Unit := do
  let stderr ← IO.getStderr
  for line in ({ journal with lines := [] }.record events).lines do
    put stderr (line ++ ['\n'])

/-- Reads a line with its line feed, if it has one. -/
partial def readLine (stdin : IO.FS.Stream) (read : List UInt8) : IO (List UInt8) := do
  let bytes ← stdin.read 1
  match bytes.toList with
  | [] => return read.reverse
  | b :: _ => if b = 10 then return (b :: read).reverse else readLine stdin (b :: read)

/-- Carries a conversation on until it ends. -/
partial def converse (journal : Journal) (s : Session) : IO UInt32 := do
  let stdout ← IO.getStdout
  match Console.lines (← readLine (← IO.getStdin) []) with
  | [] =>
    putEvents journal Console.atEnd.events
    put stdout Console.atEnd.output
    return 0
  | line :: _ =>
    match Console.step s line with
    | .next t =>
      putEvents journal t.events
      put stdout t.output
      converse journal t.session
    | .last t =>
      putEvents journal t.events
      put stdout t.output
      return 0
    | .broken => return 1

end Abacus.Main

open Abacus

/-- The program. -/
def main (arguments : List String) : IO UInt32 := do
  let arguments := arguments.map String.toList
  let environment? := (← IO.getEnv "RUST_LOG").map String.toList
  match Options.read arguments with
  | .run o =>
    let journal := Journal.openWith {} (.choose o.log? environment?)
    for line in journal.lines do
      Main.put (← IO.getStderr) (line ++ ['\n'])
    Main.putEvents journal [.started o.console o.limits.exponentMax]
    if o.console then Main.converse journal (Session.new o.limits) else return 1
  | _ =>
    let outcome := Program.run arguments [] environment?
    Main.put (← IO.getStdout) outcome.output
    return outcome.code
