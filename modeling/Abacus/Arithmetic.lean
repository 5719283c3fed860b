import Abacus.Refusal
import Abacus.Limits
import Abacus.Operator

/-!
# Exact arithmetic under limits

Sums, differences and products are those of the integers, division truncates toward zero, and
a power is refused when the limits say so.

For a base of absolute value at least two the result of `base ^ n` takes at least
`n * log₂ |base|` bits, logarithm rounded down. That estimate is what the budget is
held against, so a power is refused before it is computed. The exponents `0` and `1` cost
nothing and are never held against the budget; the bases `0`, `1` and `-1` have powers that
need no computation, so every exponent from zero up is accepted for them.

- `power`: a power under limits.
- `Operator.apply`: any of the five operators.
-/

namespace Abacus

/-- The largest number that the size estimate of a power reports. -/
def estimateMax : Nat := UInt64.size - 1

/-- A lower bound for the number of bits of `base ^ n`, cut off at `estimateMax`. -/
def powerBits (base : Int) (n : Nat) : Nat :=
  min (base.natAbs.log2 * n) estimateMax

/-- The powers of `0`, `1` and `-1`, at any exponent. -/
def unitPower? (base : Int) (n : Nat) : Option Int :=
  if base = 0 then some (if n = 0 then 1 else 0)
  else if base = 1 then some 1
  else if base = -1 then some (if n % 2 = 0 then 1 else -1)
  else none

/-- A power under limits. -/
def power (limits : Limits) (base exponent : Int) : Except Refusal Int :=
  if exponent < 0 then
    .error (.invalidExponent exponent .negative)
  else
    let n := exponent.toNat
    match unitPower? base n with
    | some v => .ok v
    | none =>
      if limits.exponentMax.toNat < n then
        .error (.invalidExponent exponent .aboveMax)
      else if 1 < n ∧ limits.bitsMax.toNat < powerBits base n then
        .error (.invalidExponent exponent (.overBudget (powerBits base n) limits.bitsMax.toNat))
      else
        .ok (Int.pow base n)

/-- The value of `a o b` under limits. -/
def Operator.apply (limits : Limits) : Operator → Int → Int → Except Refusal Int
  | .plus, a, b => .ok (a + b)
  | .minus, a, b => .ok (a - b)
  | .times, a, b => .ok (a * b)
  | .over, a, b => if b = 0 then .error .divisionByZero else .ok (a.tdiv b)
  | .power, a, b => Abacus.power limits a b

end Abacus
