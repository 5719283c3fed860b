import Abacus.Arithmetic
import Abacus.Text.Decimal.Lemmas
import Mathlib.Algebra.Ring.Parity
import Mathlib.Data.Nat.Digits.Defs

/-!
# What numerals and operators mean

The meaning of a line rests on what its numerals and operators mean, and that is told here without
looking at how either is worked out: a numeral counts in base ten, an operator has its result in the
integers, and limits are a condition on the operands of a power alone. The calculator reads digits
from the left, has shortcuts for some bases, and tests a power step by step; that it comes to the
same is one lemma for each.

- **Numerals** (`Decimal.value_eq_denoted`).
- **Levels** (`Operator.rank_eq_level`): which operators bind more tightly than which.
- **Results** (`Operator.result?`, `Limits.refusal?`, `Operator.value`): the result in the integers,
  what limits refuse, and what comes of both (`Operator.apply_eq_value`).
-/

namespace Abacus

/-! ### Numerals -/

namespace Decimal

/-- The number that digits stand for in base ten. -/
def denoted (ds : Text) : Nat :=
  Nat.ofDigits 10 (ds.reverse.map digitValue)

/-- The digits are read off from the left, and count from the right. -/
theorem value_eq_denoted (s : Text) : value s = denoted s := by
  induction s with
  | nil => rfl
  | cons c s ih =>
    have front : value (c :: s) = digitValue c * 10 ^ s.length + value s := by
      rw [← List.singleton_append, value_append]
      simp [value]
    have last : denoted (c :: s) = denoted s + 10 ^ s.length * digitValue c := by
      rw [denoted, List.reverse_cons, List.map_append, Nat.ofDigits_append, List.length_map,
        List.length_reverse, List.map_singleton, Nat.ofDigits_singleton]
      rfl
    rw [front, last, ih, Nat.mul_comm, Nat.add_comm]

end Decimal

/-! ### Levels -/

namespace Operator

/-- The level of an operator: `^` binds more tightly than `*` and `/`, and these bind more tightly
than `+` and `-`. -/
def level : Operator → Nat
  | .power => 3
  | .times | .over => 2
  | .plus | .minus => 1

theorem rank_eq_level (o : Operator) : o.rank = o.level := by
  cases o <;> rfl

end Operator

/-! ### Results -/

/-- The value of `a o b` in the integers, if there is one. -/
def Operator.result? : Operator → Int → Int → Option Int
  | .plus, a, b => some (a + b)
  | .minus, a, b => some (a - b)
  | .times, a, b => some (a * b)
  | .over, a, b => if b = 0 then none else some (a.tdiv b)
  | .power, a, b => if b < 0 then none else some (a ^ b.toNat)

/-- Why limits refuse the power `a ^ b`, if they do. A base of absolute value two or more is held
against the largest exponent and, unless the exponent is `0` or `1`, against the budget: every
factor counts for the bits of the base less one, and the product is cut off at the largest word of
64 bits. -/
def Limits.refusal? (limits : Limits) (a b : Int) : Option PowerRefusal :=
  let bits := min (a.natAbs.log2 * b.toNat) (2 ^ 64 - 1)
  if b < 0 then some .negative
  else if a.natAbs < 2 then none
  else if limits.exponentMax.toNat < b then some .aboveMax
  else if 1 < b ∧ limits.bitsMax.toNat < bits then some (.overBudget bits limits.bitsMax.toNat)
  else none

namespace Operator

/-- Why limits refuse `a o b`, if they do: they refuse nothing but powers. -/
def refusal? (limits : Limits) : Operator → Int → Int → Option PowerRefusal
  | .power, a, b => limits.refusal? a b
  | _, _, _ => none

/-- What comes of `a o b` under limits: a refusal of the exponent, the value in the integers, or
where neither is there a division by zero. -/
def value (limits : Limits) (o : Operator) (a b : Int) : Except Refusal Int :=
  match o.refusal? limits a b, o.result? a b with
  | some cause, _ => .error (.invalidExponent b cause)
  | none, some v => .ok v
  | none, none => .error .divisionByZero

end Operator

/-- The powers of `0`, `1` and `-1`, which need no computation, are powers. -/
theorem unitPower?_eq {base : Int} {n : Nat} {v : Int} (h : unitPower? base n = some v) :
    base ^ n = v := by
  unfold unitPower? at h
  split at h
  · next zero =>
    obtain rfl := Option.some.inj h
    rw [zero, zero_pow_eq]
  · split at h
    · next one =>
      obtain rfl := Option.some.inj h
      rw [one, one_pow]
    · split at h
      · next minus =>
        obtain rfl := Option.some.inj h
        rw [minus, neg_one_pow_eq_ite]
        simp only [Nat.even_iff]
      · cases h

/-- The bases whose powers have to be computed. -/
theorem unitPower?_eq_none_iff {base : Int} {n : Nat} :
    unitPower? base n = none ↔ 2 ≤ base.natAbs := by
  unfold unitPower?
  split
  · simp
    omega
  · split
    · simp
      omega
    · split
      · simp
        omega
      · simp
        omega

/-- The estimate for a power is cut off at the largest word of 64 bits. -/
theorem powerBits_eq (base : Int) (n : Nat) :
    powerBits base n = min (base.natAbs.log2 * n) (2 ^ 64 - 1) :=
  rfl

theorem power_eq_value (limits : Limits) (a b : Int) :
    power limits a b = Operator.value limits .power a b := by
  rw [Operator.value, Operator.refusal?, Operator.result?, Limits.refusal?, power]
  by_cases below : b < 0
  · simp only [if_pos below]
  have above : (limits.exponentMax.toNat : Int) < b ↔ limits.exponentMax.toNat < b.toNat := by
    omega
  have more : 1 < b ↔ 1 < b.toNat := by omega
  simp only [if_neg below, above, more, ← powerBits_eq]
  cases unit : unitPower? a b.toNat with
  | some v =>
    have small : a.natAbs < 2 := by
      by_contra large
      rw [unitPower?_eq_none_iff.2 (Nat.not_lt.1 large)] at unit
      cases unit
    rw [if_pos small, unitPower?_eq unit]
  | none =>
    have large : ¬ a.natAbs < 2 := Nat.not_lt.2 (unitPower?_eq_none_iff.1 unit)
    rw [if_neg large]
    by_cases beyond : limits.exponentMax.toNat < b.toNat
    · simp only [if_pos beyond]
    by_cases costly : 1 < b.toNat ∧ limits.bitsMax.toNat < powerBits a b.toNat
    · simp only [if_neg beyond, if_pos costly]
    · simp only [if_neg beyond, if_neg costly]
      rfl

/-- **Operators**: what the calculator works out is what comes of an operator. -/
theorem Operator.apply_eq_value (limits : Limits) (o : Operator) (a b : Int) :
    o.apply limits a b = o.value limits a b := by
  cases o with
  | power => exact power_eq_value limits a b
  | «over» =>
    by_cases zero : b = 0
    · rw [apply, value, if_pos zero, result?, if_pos zero]
      rfl
    · rw [apply, value, if_neg zero, result?, if_neg zero]
      rfl
  | _ => rfl

end Abacus
