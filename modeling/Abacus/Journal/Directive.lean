import Abacus.Journal.Event
import Abacus.Text.Alphanumeric

/-!
# Directives

A directive says up to which detail certain events are recorded. Its written form is one of

- `level`, about every event;
- `target`, `target=` or `target=level`, about the events whose target begins so; without a level
  all of them are recorded;
- the same with a condition in square brackets after the target, which may then be missing:
  `[span]`, `[{field}]` or `[span{field}]`.

White space counts: behind a target it belongs to the target, and around a level it makes the
level unknown. A directive that starts with white space is about no event and cannot give a
level.

- `Directive.read?`: reads a directive.
- `Directive.covers`: whether a directive is about an event.
- `Directive.yieldsTo`: which of two directives decides about an event that both are about.
-/

namespace Abacus

/-- The detail up to which certain events are recorded; zero is none at all. -/
structure Directive where
  /-- What the targets begin with; the empty text is the beginning of every target. -/
  target : Text := []
  /-- Only what happens inside certain spans is meant; nothing the program records does. -/
  inSpan : Bool := false
  /-- The field that the events have to carry. -/
  field? : Option Text := none
  detail : Nat
  deriving DecidableEq, Repr

namespace Directive

/-! ### Levels -/

/-- The names of the degrees of detail, in the order of their numbers. -/
def levelNames : List Text :=
  ["off".toList, "error".toList, "warn".toList, "info".toList, "debug".toList, "trace".toList]

/-- The detail of everything. -/
def fullDetail : Nat := Level.trace.detail

/-- Reads a degree of detail: its name, in letters of either case, or its number. -/
def readLevel? (s : Text) : Option Nat :=
  let lower := s.map Char.toLower
  match levelNames.findIdx? (· = lower) with
  | some detail => some detail
  | none => (Decimal.readUnsigned? s).filter (· ≤ fullDetail)

/-- Reads what stands behind the target and the condition: nothing but white space, or a `=` with
a level or nothing behind it. If there is white space in front of the directive, `lead`, it has
no `=`. -/
def readDetail? (lead : Text) : Text → Option Nat
  | '=' :: level =>
    if !lead.isEmpty then none
    else if level.isEmpty then some fullDetail
    else readLevel? level
  | rest => if rest.all isBlank then some fullDetail else none

/-! ### Conditions -/

/-- Reads a condition from behind its opening bracket, and gives what stands behind its closing
one. A condition on the value of a field is met inside spans only. -/
def readCondition? (s : Text) : Option (Bool × Option Text × Text) :=
  let inName (c : Char) : Bool := c ≠ ']' && c ≠ '\x7b'
  let span := s.takeWhile inName
  match s.dropWhile inName with
  | ']' :: rest => some (true, none, rest)
  | '\x7b' :: r =>
    let field := r.takeWhile (· ≠ '\x7d')
    match r.dropWhile (· ≠ '\x7d') with
    | '\x7d' :: ']' :: rest =>
      if field.isEmpty then none
      else if '=' ∈ field then some (true, none, rest)
      else some (!span.isEmpty, some field, rest)
    | _ => none
  | _ => none

/-! ### Directives -/

/-- Whether a character can begin a directive. -/
def begins (c : Char) : Bool :=
  isAlphanumeric c || c = '-' || c = ':' || c = '_' || c = '['

/-- Whether a character goes on with a target. -/
def inTarget (c : Char) : Bool :=
  c ≠ '=' && c ≠ '['

/-- Reads a directive. -/
def read? (s : Text) : Option Directive :=
  let lead := s.takeWhile isBlank
  let body := s.trimStart
  if body.head?.any begins then
    let target := lead ++ body.takeWhile inTarget
    match body.dropWhile inTarget with
    | [] =>
      match readLevel? s with
      | some detail => some { detail }
      | none => some { target := s, detail := fullDetail }
    | '[' :: r => do
      let (inSpan, field?, rest) ← readCondition? r
      let detail ← readDetail? lead rest
      some { target, inSpan, field?, detail }
    | rest => (readDetail? lead rest).map fun detail => { target, detail }
  else none

/-- Whether a directive is about an event. -/
def covers (d : Directive) (e : Event) : Bool :=
  d.target.isPrefixOf e.target && !d.inSpan && d.field?.all fun f => f ∈ e.fieldNames

/-- Whether of two conditions on a field the second is at least as strong: one is stronger than
none, and of two the order of their names decides. -/
def fieldLe : Option Text → Option Text → Bool
  | none, _ => true
  | some _, none => false
  | some f, some g => !(g.lex f fun c d => c.toNat < d.toNat)

/-- Whether of two directives about an event the second decides, which comes later: its target
is longer, or as long and its condition at least as strong. -/
def yieldsTo (d e : Directive) : Bool :=
  d.target.length < e.target.length
    || (d.target.length == e.target.length && fieldLe d.field? e.field?)

end Directive

end Abacus
