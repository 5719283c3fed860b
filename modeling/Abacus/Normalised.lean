import Abacus.Text.Decimal

/-!
# Normalised lines

Before a line is read as tokens it is brought into a normal form.

1. **Runs of signs fold.** First a run of `-` becomes one sign, `+` for an even number of
   them and `-` for an odd one; then a run of `+`, the new ones included, becomes one `+`.
2. **Glued operators are refused**: no two of `*`, `/`, `^` may stand side by side.
3. **Units are spaced out.** A unit is a maximal run of letters, a maximal run of digits, or
   any other character that is not white, on its own.
4. **A lone negative number** is read at once, with no need of the later stages.

Main definitions: `Text.foldSigns`, `Text.glued`, `Text.units`, `Normalised.ofText?`.
-/

namespace Abacus

namespace Text

/-! ### Runs of signs -/

/-- Turns the sign at the head of a text into the other one. -/
def flipSign : Text → Text
  | '-' :: r => '+' :: r
  | '+' :: r => '-' :: r
  | s => s

/-- Folds every run of `-` into one sign by parity: one more `-` flips what the rest of its
run has become. -/
def foldMinus : Text → Text
  | [] => []
  | c :: r =>
    if c = '-' ∧ r.head? = some '-' then flipSign (foldMinus r) else c :: foldMinus r

/-- Folds every run of `+` into one `+`. -/
def foldPlus : Text → Text
  | [] => []
  | c :: r =>
    if c = '+' ∧ r.head? = some '+' then foldPlus r else c :: foldPlus r

/-- Folds the runs of `-`, then the runs of `+` that this leaves. -/
def foldSigns (s : Text) : Text :=
  foldPlus (foldMinus s)

/-! ### Glued operators -/

/-- The operators that are never a sign. -/
def isMultiplicative (c : Char) : Bool :=
  c = '*' || c = '/' || c = '^'

/-- Whether two operators that are never a sign stand side by side. -/
def glued : Text → Bool
  | c :: d :: r => (isMultiplicative c && isMultiplicative d) || glued (d :: r)
  | _ => false

/-! ### Units -/

/-- Two neighbours are of one unit when both are letters or both are digits. -/
def sameUnit (c d : Char) : Bool :=
  (c.isAlpha && d.isAlpha) || (c.isDigit && d.isDigit)

/-- The lexical units of a text, in order; white space separates units and is no part of any. -/
def units (s : Text) : List Text :=
  (runs sameUnit s).filter fun u => !u.all isBlank

end Text

/-! ### The normal form -/

/-- A line ready for the later stages. -/
inductive Normalised where
  /-- The whole line is a minus sign and a numeral. -/
  | literal (n : Int)
  /-- Any other line: its units with one space between neighbours. -/
  | spaced (s : Text)
  deriving DecidableEq, Repr

namespace Normalised

/-- The number of a line that is a minus sign and a numeral. -/
def literal? : List Text → Option Int
  | [['-'], d] => (Decimal.read? d).map fun n => -(n : Int)
  | _ => none

/-- The normal form of a line that consists of the given units. -/
def ofUnits (us : List Text) : Normalised :=
  match literal? us with
  | some n => .literal n
  | none => .spaced (Text.unwords us)

/-- The normal form of a line, or `none` for a line with glued operators. -/
def ofText? (s : Text) : Option Normalised :=
  let folded := s.foldSigns
  if folded.glued then none else some (ofUnits folded.units)

end Normalised

end Abacus
