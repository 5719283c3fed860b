import Abacus.Refusal
import Abacus.Store

/-!
# Assignments

An assignment is `name = value`, where the value is a signed numeral or the name of a variable
whose value is copied. Both sides are read before the store is touched, so an assignment is
carried out wholly or not at all.

- `Assignment.read?`: the assignment that a line is.
- `Store.assign`: carries an assignment out; only an unbound name on the right can fail.
-/

namespace Abacus

/-- Whether a text is the name of a variable: a non-empty run of letters. -/
def Text.isName (s : Text) : Bool :=
  !s.isEmpty && s.all Char.isAlpha

/-- Where an assigned value comes from. -/
inductive Source where
  | literal (n : Int)
  /-- The value that a name has at the moment of the assignment. -/
  | copy (name : Text)
  deriving DecidableEq, Repr

/-- The binding of a name to a value. -/
structure Assignment where
  name : Text
  source : Source
  deriving DecidableEq, Repr

/-- Reads the right side of an assignment. -/
def Source.read? (s : Text) : Option Source :=
  if s.isName then some (.copy s) else (Decimal.readSigned? s).map .literal

/-- Reads a line as an assignment: one `=`, a name on its left and a value on its right. -/
def Assignment.read? (line : Text) : Option Assignment :=
  match line.dropWhile (· ≠ '=') with
  | [] => none
  | _ :: right =>
    if '=' ∈ right then none
    else
      let name := Text.trim (line.takeWhile (· ≠ '='))
      if name.isName then (Source.read? (Text.trim right)).map fun source => ⟨name, source⟩
      else none

namespace Store

/-- The value of a name that has to be bound. -/
def read (s : Store) (name : Text) : Except Refusal Int :=
  match s.get? name with
  | some v => .ok v
  | none => .error (.unknownVariable name)

/-- The value that an assignment gives to its name. -/
def valueOf (s : Store) : Source → Except Refusal Int
  | .literal n => .ok n
  | .copy name => s.read name

/-- The binding that a line asks for. -/
def binding (s : Store) (line : Text) : Except Refusal (Text × Int) :=
  match Assignment.read? line with
  | none => .error .invalidAssignment
  | some a => (s.valueOf a.source).map fun v => (a.name, v)

/-- The store after the binding that a line asks for. -/
def assign (s : Store) (line : Text) : Except Refusal Store :=
  (s.binding line).map fun b => s.bind b.1 b.2

end Store

end Abacus
