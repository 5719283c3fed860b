import Abacus.Text.Decimal

/-!
# Refusals

A refusal is the cause for which a line has no answer, and carries what the cause is about. What
the user reads is short and says only of which kind the cause is.

- `Refusal`: why a line is refused.
- `PowerRefusal`: why a power is refused.
- `Refusal.message`: what the user reads.
- `bind_eq_ok_iff`, `bind_eq_error_iff`: two steps go through when both do, and are refused when
  one of them is.
-/

namespace Abacus

/-- Why a power is refused. -/
inductive PowerRefusal where
  /-- The exponent is below zero. -/
  | negative
  /-- The exponent is above the largest one. -/
  | aboveMax
  /-- The result would take at least `bits` bits, more than the budget of `bitsMax`. -/
  | overBudget (bits bitsMax : Nat)
  deriving DecidableEq, Repr

/-- Why a line is refused. -/
inductive Refusal where
  /-- Unbalanced brackets, glued operators, or operands and operators out of place. -/
  | invalidExpression
  /-- Not of the form `name = value`. -/
  | invalidAssignment
  /-- A name with no value. -/
  | unknownVariable (name : Text)
  /-- A line that starts with a slash and is no command. -/
  | unknownCommand (line : Text)
  | divisionByZero
  | invalidExponent (exponent : Int) (cause : PowerRefusal)
  deriving DecidableEq, Repr

namespace Refusal

/-- What the user reads. -/
def message : Refusal → Text
  | .invalidExpression => "Invalid expression".toList
  | .invalidAssignment => "Invalid assignment".toList
  | .unknownVariable _ => "Unknown variable".toList
  | .unknownCommand _ => "Unknown command".toList
  | .divisionByZero => "Division by zero".toList
  | .invalidExponent _ _ => "Invalid exponent".toList

/-- What the cause is about, where its kind does not say it all. -/
def detail? : Refusal → Option Text
  | .unknownVariable name => some name
  | .unknownCommand line => some line
  | .invalidExponent exponent _ => some (Decimal.ofInt exponent)
  | _ => none

end Refusal

section

variable {α β : Type} {x : Except Refusal α} {f : α → Except Refusal β}

theorem bind_eq_ok_iff {b : β} : x.bind f = .ok b ↔ ∃ a, x = .ok a ∧ f a = .ok b := by
  cases x with
  | error e =>
    constructor
    · nofun
    · nofun
  | ok a =>
    constructor
    · exact fun h => ⟨a, rfl, h⟩
    · rintro ⟨a', same, h⟩
      cases same
      exact h

theorem bind_eq_error_iff {e : Refusal} :
    x.bind f = .error e ↔ x = .error e ∨ ∃ a, x = .ok a ∧ f a = .error e := by
  cases x with
  | error e' =>
    constructor
    · intro h
      cases h
      exact .inl rfl
    · rintro (h | ⟨a, same, -⟩)
      · cases h
        rfl
      · cases same
  | ok a =>
    constructor
    · exact fun h => .inr ⟨a, rfl, h⟩
    · rintro (h | ⟨a', same, h⟩)
      · cases h
      · cases same
        exact h

end

end Abacus
