import Abacus.Text.Blank

/-!
# Binary operators

The five binary operators, their symbols and their ranks. Every operator associates to the
left, the power included, so `2 ^ 3 ^ 2` is `(2 ^ 3) ^ 2`.
-/

namespace Abacus

/-- A binary operator. -/
inductive Operator where
  | plus
  | minus
  | times
  | over
  | power
  deriving DecidableEq, Repr

namespace Operator

/-- The operator that a character stands for. -/
def ofChar? : Char → Option Operator
  | '+' => some .plus
  | '-' => some .minus
  | '*' => some .times
  | '/' => some .over
  | '^' => some .power
  | _ => none

/-- The character of an operator. -/
def symbol : Operator → Char
  | .plus => '+'
  | .minus => '-'
  | .times => '*'
  | .over => '/'
  | .power => '^'

/-- How tightly an operator binds. -/
def rank : Operator → Nat
  | .plus | .minus => 1
  | .times | .over => 2
  | .power => 3

/-- The operators that may also stand in front of an operand, as its sign. -/
def isSign : Operator → Bool
  | .plus | .minus => true
  | _ => false

/-- A character is the symbol of the operator that it is read as, and of no other. -/
theorem ofChar?_eq_some_iff {c : Char} {o : Operator} : ofChar? c = some o ↔ c = o.symbol := by
  constructor
  · intro h
    unfold ofChar? at h
    split at h <;> cases h <;> rfl
  · rintro rfl
    cases o <;> rfl

end Operator

end Abacus
