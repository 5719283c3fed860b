import Abacus.Limits
import Abacus.Text.Decimal

/-!
# Options of the command line

Arguments are read from left to right, and the first one that asks for help or for the version,
or that is wrong, decides. An option is given at most once; its value is the rest of the
argument after `=`, or the next argument unless that one looks like an option itself. A lone
`--` ends the options; nothing may follow it, since no other arguments are known.
-/

namespace Abacus

/-- What the command line asks for. -/
structure Options where
  console : Bool := false
  /-- The filter of the journal. -/
  log? : Option Text := none
  exponentMax? : Option UInt32 := none
  bitsMax? : Option UInt64 := none
  deriving DecidableEq, Repr

/-- What comes of reading a command line. -/
inductive Invocation where
  | run (o : Options)
  | help
  | version
  /-- An argument was wrong. -/
  | refused
  deriving DecidableEq, Repr

namespace Options

/-- The limits that the options ask for. -/
def limits (o : Options) : Limits :=
  { exponentMax := o.exponentMax?.getD Limits.standard.exponentMax
    bitsMax := o.bitsMax?.getD Limits.standard.bitsMax }

/-! ### Values -/

/-- Reads the largest exponent. -/
def readExponentMax? (s : Text) : Option UInt32 := do
  let n ← Decimal.readSigned? s
  if 0 ≤ n ∧ n.toNat < UInt32.size then some (UInt32.ofNat n.toNat) else none

/-- Reads the budget of bits. -/
def readBitsMax? (s : Text) : Option UInt64 := do
  let n ← Decimal.readUnsigned? s
  if n < UInt64.size then some (UInt64.ofNat n) else none

/-! ### Arguments -/

/-- An option that takes a value. -/
inductive Setting where
  | log
  | exponentMax
  | bitsMax
  deriving DecidableEq, Repr

/-- The setting with a long name. -/
def Setting.ofName? (s : Text) : Option Setting :=
  if s = "log".toList then some .log
  else if s = "exposant-max".toList then some .exponentMax
  else if s = "bits-max".toList then some .bitsMax
  else none

/-- The options with a setting, unless it was there already or its value cannot be read. -/
def set? (o : Options) (setting : Setting) (value : Text) : Option Options :=
  match setting with
  | .log => if o.log?.isSome then none else some { o with log? := some value }
  | .exponentMax =>
    if o.exponentMax?.isSome then none
    else (readExponentMax? value).map fun n => { o with exponentMax? := some n }
  | .bitsMax =>
    if o.bitsMax?.isSome then none
    else (readBitsMax? value).map fun n => { o with bitsMax? := some n }

/-- Whether an argument stands for itself: it does not start with a hyphen, or it is nothing
else. -/
def isValue (s : Text) : Bool :=
  s.head? ≠ some '-' || s = ['-']

/-- The first letter of a cluster of short options decides. -/
def readShort : Char → Invocation
  | 'h' => .help
  | 'V' => .version
  | _ => .refused

/-- Reads arguments when `o` has been read before them. -/
def readFrom (o : Options) : List Text → Invocation
  | [] => .run o
  | ['-', '-'] :: rest => if rest.isEmpty then .run o else .refused
  | ('-' :: '-' :: argument) :: rest =>
    let name := argument.takeWhile (· ≠ '=')
    match argument.dropWhile (· ≠ '='), Setting.ofName? name with
    | _ :: value, some setting =>
      match o.set? setting value with
      | some o => readFrom o rest
      | none => .refused
    | [], some setting =>
      match rest with
      | value :: rest =>
        if isValue value then
          match o.set? setting value with
          | some o => readFrom o rest
          | none => .refused
        else .refused
      | [] => .refused
    | [], none =>
      if name = "help".toList then .help
      else if name = "version".toList then .version
      else if name = "console".toList ∧ !o.console then readFrom { o with console := true } rest
      else .refused
    | _ :: _, none => .refused
  | ('-' :: c :: _) :: _ => readShort c
  | _ :: _ => .refused

/-- Reads a command line. -/
def read (arguments : List Text) : Invocation :=
  readFrom {} arguments

end Options

end Abacus
