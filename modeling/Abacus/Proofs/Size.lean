import Abacus.Proofs.Limits
import Mathlib.Algebra.Order.BigOperators.Group.List
import Mathlib.Data.Nat.Size
import Mathlib.Tactic.Ring

/-!
# Values stay small

A budget of bits stands in the way of a single power only, and is held against a lower estimate of
its result. It bounds all values of a calculation nevertheless: what a sum, a product or a quotient
makes of two values is hardly wider than the two side by side, and what a power makes of them is not
wider than the base or else within the limits. So the values on the stack, side by side, grow with
every token by what the token is allowed, and by no more.

- **Widths** (`width`): the bits of an integer, and what the operators make of them
  (`Operator.width_apply_le`).
- **Stacks** (`Token.stackWidth`): the bits of all values on a stack. A step adds no more than the
  room of its token, a run no more than the room of all its tokens
  (`Token.stackWidth_foldlM_push_le`).
- **The bound** (`Token.size_le_allowance`): linear in the tokens, for every value that is ever on
  the stack.
-/

namespace Abacus

/-! ### Widths -/

/-- The number of bits of an integer, its sign aside; zero takes one bit as well. -/
def width (v : Int) : Nat :=
  max 1 v.natAbs.size

theorem one_le_width (v : Int) : 1 ≤ width v :=
  Nat.le_max_left ..

theorem natAbs_lt_two_pow_width (v : Int) : v.natAbs < 2 ^ width v :=
  Nat.size_le.1 (Nat.le_max_right ..)

theorem width_le {v : Int} {n : Nat} (room : 1 ≤ n) (h : v.natAbs < 2 ^ n) : width v ≤ n :=
  Nat.max_le.2 ⟨room, Nat.size_le.2 h⟩

theorem width_neg (v : Int) : width (-v) = width v := by
  rw [width, width, Int.natAbs_neg]

/-- A sum takes one bit more than its operands at most. -/
theorem width_add_le (a b : Int) : width (a + b) ≤ width a + width b + 1 := by
  refine width_le (Nat.le_add_left ..) ?_
  have left : 2 ^ width a ≤ 2 ^ (width a + width b) :=
    Nat.pow_le_pow_right (by decide) (Nat.le_add_right ..)
  have right : 2 ^ width b ≤ 2 ^ (width a + width b) :=
    Nat.pow_le_pow_right (by decide) (Nat.le_add_left ..)
  calc (a + b).natAbs ≤ a.natAbs + b.natAbs := Int.natAbs_add_le a b
    _ < 2 ^ width a + 2 ^ width b :=
      Nat.add_lt_add (natAbs_lt_two_pow_width a) (natAbs_lt_two_pow_width b)
    _ ≤ 2 ^ (width a + width b) + 2 ^ (width a + width b) := Nat.add_le_add left right
    _ = 2 ^ (width a + width b + 1) := by rw [Nat.pow_succ, Nat.mul_two]

theorem width_sub_le (a b : Int) : width (a - b) ≤ width a + width b + 1 := by
  have sum := width_add_le a (-b)
  rwa [width_neg, ← Int.sub_eq_add_neg] at sum

theorem width_mul_le (a b : Int) : width (a * b) ≤ width a + width b := by
  have := one_le_width a
  refine width_le (by omega) ?_
  rw [Int.natAbs_mul, Nat.pow_add]
  exact Nat.mul_lt_mul'' (natAbs_lt_two_pow_width a) (natAbs_lt_two_pow_width b)

theorem width_tdiv_le (a b : Int) : width (a.tdiv b) ≤ width a := by
  refine width_le (one_le_width a) ?_
  rw [Int.natAbs_tdiv]
  exact Nat.lt_of_le_of_lt (Nat.div_le_self ..) (natAbs_lt_two_pow_width a)

/-- The logarithm of a power falls short of its size by less than one bit for every factor. -/
theorem natAbs_pow_lt (base : Int) {n : Nat} (h : n ≠ 0) :
    (base ^ n).natAbs < 2 ^ (base.natAbs.log2 * n + n) := by
  calc (base ^ n).natAbs = base.natAbs ^ n := Int.natAbs_pow base n
    _ < (2 ^ (base.natAbs.log2 + 1)) ^ n := Nat.pow_lt_pow_left Nat.lt_log2_self h
    _ = 2 ^ (base.natAbs.log2 * n + n) := by rw [← Nat.pow_mul, Nat.add_one_mul]

/-- The bases whose powers need no computation take one bit, and so do their powers. -/
theorem width_pow_of_unitPower? {base : Int} {n : Nat} {v : Int}
    (h : unitPower? base n = some v) : width (base ^ n) ≤ 1 := by
  have unit : base.natAbs ≤ 1 := by
    unfold unitPower? at h
    split at h
    · omega
    · split at h
      · omega
      · split at h
        · omega
        · cases h
  refine width_le (Nat.le_refl 1) ?_
  have power := Nat.pow_le_pow_left unit n
  rw [Nat.one_pow, ← Int.natAbs_pow] at power
  omega

section Limited

variable {limits : Limits} (budget : limits.bitsMax.toNat < 2 ^ 64 - 1)
include budget

/-- A power that limits admit is no wider than its base or within the limits. The estimate that the
budget is held against falls short of the size by less than the exponent, and the exponent is
bounded too. -/
theorem width_pow_le {base : Int} {n : Nat}
    (admitted : unitPower? base n = none → limits.Admits base n) :
    width (base ^ n) ≤ width base + (limits.bitsMax.toNat + limits.exponentMax.toNat) := by
  have base_pos := one_le_width base
  cases computed : unitPower? base n with
  | some v =>
    have := width_pow_of_unitPower? computed
    omega
  | none =>
    have admits := admitted computed
    rcases Nat.lt_trichotomy n 1 with zero | one | more
    · obtain rfl : n = 0 := by omega
      rw [pow_zero]
      have : width 1 ≤ 1 := width_le (Nat.le_refl 1) (by decide)
      omega
    · subst one
      rw [pow_one]
      omega
    · have estimate : base.natAbs.log2 * n ≤ limits.bitsMax.toNat := by
        have bits := admits.bits more
        rw [powerBits, estimateMax, show UInt64.size = 2 ^ 64 from rfl] at bits
        omega
      have exponent := admits.exponent
      refine width_le (by omega) ?_
      calc (base ^ n).natAbs < 2 ^ (base.natAbs.log2 * n + n) := natAbs_pow_lt base (by omega)
        _ ≤ 2 ^ (width base + (limits.bitsMax.toNat + limits.exponentMax.toNat)) :=
          Nat.pow_le_pow_right (by decide) (by omega)

end Limited

/-! ### Stacks -/

namespace Token

/-- The bits by which a token may make the values on a stack wider. -/
def room (limits : Limits) : Token → Nat
  | .number n => width n
  | .op .plus | .op .minus => 1
  | .op .power => limits.bitsMax.toNat + limits.exponentMax.toNat
  | _ => 0

/-- The bits of all values on a stack. -/
def stackWidth (stack : List Int) : Nat :=
  (stack.map width).sum

theorem size_le_stackWidth {v : Int} {stack : List Int} (h : v ∈ stack) :
    v.natAbs.size ≤ stackWidth stack := by
  have single : width v ≤ stackWidth stack :=
    List.single_le_sum (fun _ _ => Nat.zero_le _) _ (List.mem_map_of_mem h)
  exact Nat.le_trans (Nat.le_max_right ..) single

/-- The bits that tokens allow for: those of the numbers, one for every sum and difference, and the
limits once for every power. -/
def allowance (limits : Limits) (ts : List Token) : Nat :=
  ((numbers ts).map width).sum + (ts.count (.op .plus) + ts.count (.op .minus))
    + ts.count (.op .power) * (limits.bitsMax.toNat + limits.exponentMax.toNat)

theorem allowance_nil (limits : Limits) : allowance limits [] = 0 := by
  simp [allowance, numbers]

theorem allowance_cons (limits : Limits) (t : Token) (ts : List Token) :
    allowance limits (t :: ts) = room limits t + allowance limits ts := by
  cases t with
  | number n =>
    simp [allowance, numbers, room]
    omega
  | op o => cases o <;> simp [allowance, numbers, room] <;> ring
  | _ => simp [allowance, numbers, room]

theorem allowance_append (limits : Limits) (ts us : List Token) :
    allowance limits (ts ++ us) = allowance limits ts + allowance limits us := by
  induction ts with
  | nil => rw [List.nil_append, allowance_nil, Nat.zero_add]
  | cons t ts ih => rw [List.cons_append, allowance_cons, allowance_cons, ih, Nat.add_assoc]

end Token

section Limited

variable {limits : Limits} (budget : limits.bitsMax.toNat < 2 ^ 64 - 1)
include budget

/-- What an operator makes of two values takes their bits and its own room at most. -/
theorem Operator.width_apply_le {o : Operator} {a b v : Int} (h : o.apply limits a b = .ok v) :
    width v ≤ width a + width b + Token.room limits (.op o) := by
  have outcome := Operator.outcome_apply limits o a b
  rw [h] at outcome
  cases outcome with
  | sum => exact width_add_le a b
  | difference => exact width_sub_le a b
  | product => exact width_mul_le a b
  | quotient _ => exact Nat.le_trans (width_tdiv_le a b) (Nat.le_add_right ..)
  | power outcome =>
    cases outcome with
    | value _ admitted =>
      have := width_pow_le budget admitted
      rw [Token.room]
      omega

namespace Token

/-- **Step**: a token makes the values on the stack wider by its room at most. -/
theorem stackWidth_push_le {t : Token} {stack stack' : List Int}
    (h : push limits stack t = .ok stack') :
    stackWidth stack' ≤ stackWidth stack + room limits t := by
  obtain ⟨n, rfl, rfl⟩ | ⟨o, a, b, rest, v, rfl, rfl, applied, rfl⟩ := push_cases h
  · simp only [stackWidth, List.map_cons, List.sum_cons, room]
    omega
  · have := Operator.width_apply_le budget applied
    simp only [stackWidth, List.map_cons, List.sum_cons]
    omega

/-- **Run**: the same of many tokens. -/
theorem stackWidth_foldlM_push_le {ts : List Token} {stack stack' : List Int}
    (h : ts.foldlM (push limits) stack = .ok stack') :
    stackWidth stack' ≤ stackWidth stack + allowance limits ts := by
  induction ts generalizing stack with
  | nil =>
    cases h
    exact Nat.le_add_right ..
  | cons t ts ih =>
    obtain ⟨next, step, run⟩ := bind_eq_ok_iff.1 h
    have first := stackWidth_push_le budget step
    have rest := ih run
    rw [allowance_cons]
    omega

end Token

end Limited

/-! ### The bound -/

namespace Token

/-- **The bound**: however a list of tokens is evaluated, and however far, no value on the stack has
more bits than the tokens allow for: the bits of the numbers, one bit for every sum and difference,
and the limits once for every power. So the value of a line is bounded by its postfix form. -/
theorem size_le_allowance (limits : Limits) (budget : limits.bitsMax.toNat < 2 ^ 64 - 1)
    (ts : List Token) :
    (∀ read stack, read <+: ts → read.foldlM (push limits) [] = .ok stack →
        ∀ v ∈ stack, v.natAbs.size ≤ allowance limits ts) ∧
      ∀ (store : Store) (line : Text) (answer : Answer) (v : Int) (text : Text)
        (tokens resolved : List Token),
        (store.evaluate limits line).outcome = .ok answer → answer.value? = some v →
        answer.derivation = .stages text tokens resolved ts →
        v.natAbs.size ≤ allowance limits ts := by
  have bound : ∀ read stack, read <+: ts → read.foldlM (push limits) [] = .ok stack →
      ∀ v ∈ stack, v.natAbs.size ≤ allowance limits ts := by
    rintro read stack ⟨rest, rfl⟩ run v onStack
    have wide := stackWidth_foldlM_push_le budget run
    rw [show stackWidth [] = 0 from rfl, Nat.zero_add] at wide
    rw [allowance_append]
    calc v.natAbs.size ≤ stackWidth stack := size_le_stackWidth onStack
      _ ≤ allowance limits read := wide
      _ ≤ allowance limits read + allowance limits rest := Nat.le_add_right ..
  refine ⟨bound, ?_⟩
  intro store line answer v text tokens resolved answered value stages
  obtain ⟨evaluation, course, same⟩ := store.exists_course line
  rw [same] at answered
  have run := foldlM_push_of_evaluate (course.evaluated answered value stages) []
  exact bound ts [v] (List.prefix_refl ts) run v (List.mem_singleton_self v)

/-- A power of a power, before and after one is added. -/
theorem size_le_allowance_tower :
    let limits : Limits := ⟨5, 16⟩
    let ts : List Token :=
      [.number 2, .number 3, .op .power, .number 4, .op .power, .number 1, .op .plus]
    limits.bitsMax.toNat < 2 ^ 64 - 1 ∧
      (ts.take 5).foldlM (push limits) [] = .ok [4096] ∧
      (Int.natAbs 4096).size ≤ allowance limits ts ∧
      (Store.empty.evaluate limits "2^3^4+1".toList).outcome
        = .ok ⟨some 4097, .stages "2 ^ 3 ^ 4 + 1".toList (Token.scan "2 ^ 3 ^ 4 + 1".toList)
            (Token.scan "2 ^ 3 ^ 4 + 1".toList) ts⟩ ∧
      (Int.natAbs 4097).size ≤ allowance limits ts ∧ allowance limits ts = 51 := by
  intro limits ts
  have budget : limits.bitsMax.toNat < 2 ^ 64 - 1 := by decide
  have run : (ts.take 5).foldlM (push limits) [] = .ok [4096] := rfl
  have answered : (Store.empty.evaluate limits "2^3^4+1".toList).outcome = .ok _ := rfl
  exact ⟨budget, run,
    (size_le_allowance limits budget ts).1 _ _ (List.take_prefix 5 ts) run _
      (List.mem_singleton_self _),
    answered,
    (size_le_allowance limits budget ts).2 _ _ _ _ _ _ _ answered rfl rfl, by decide⟩

end Token

end Abacus
