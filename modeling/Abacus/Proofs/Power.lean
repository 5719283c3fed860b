import Abacus.Proofs.Size

/-!
# Powers under limits

A power that is accepted is exact. What refuses one is told from the sizes of base and exponent
alone: its result is not computed, and the budget of bits is held against an estimate from below. So
no power is refused that would stay within the budget, and an accepted one may go over it, but by no
more bits than its exponent counts, for the estimate falls short by one bit for every factor at
most.

- **Bits of a power** (`lt_size_pow`, `size_pow_le`): the estimate, from both sides.
- **The guard** (`Limits.Exceeded`): when a power is refused, reckoned in integers. That the
  estimate is cut off at the largest word makes no difference as long as the budget is below that
  (`Limits.not_admits_iff_exceeded`).
- **The guard in words** (`Limits.exceededInWords`): the same reckoned in words of 32 and 64 bits.
  An exponent that has no word is refused, and a product that has none is cut off
  (`Limits.exceededInWords_iff`).
- **Powers** (`power_exact`): values, refusals, and the budget from both sides.
-/

namespace Abacus

/-! ### Bits of a power -/

/-- A number takes one bit more than its logarithm. -/
theorem size_eq_log2_add_one {n : Nat} (h : n ≠ 0) : n.size = n.log2 + 1 := by
  apply Nat.le_antisymm
  · exact Nat.size_le.2 Nat.lt_log2_self
  · exact Nat.lt_size.2 (Nat.log2_self_le h)

/-- A power takes more bits than are reckoned for it. -/
theorem lt_size_pow {base : Int} (h : base ≠ 0) (n : Nat) :
    base.natAbs.log2 * n < (base ^ n).natAbs.size := by
  rw [Nat.lt_size, Int.natAbs_pow, Nat.pow_mul]
  exact Nat.pow_le_pow_left (Nat.log2_self_le (Int.natAbs_ne_zero.2 h)) n

/-- A power takes one bit for every factor more than are reckoned for it, at most. -/
theorem size_pow_le (base : Int) {n : Nat} (h : n ≠ 0) :
    (base ^ n).natAbs.size ≤ base.natAbs.log2 * n + n :=
  Nat.size_le.2 (natAbs_pow_lt base h)

/-! ### What a power depends on -/

section

variable {limits : Limits} {base exponent : Int}

theorem power_eq_ok_iff {v : Int} :
    power limits base exponent = .ok v ↔ 0 ≤ exponent ∧
      (2 ≤ base.natAbs → limits.Admits base exponent.toNat) ∧ v = base ^ exponent.toNat := by
  have outcome := powerOutcome limits base exponent
  generalize power limits base exponent = r at outcome
  cases outcome with
  | negative below =>
    constructor
    · intro h
      cases h
    · rintro ⟨nonneg, -⟩
      omega
  | value nonneg admitted =>
    constructor
    · intro h
      cases h
      exact ⟨nonneg, fun large => admitted (unitPower?_eq_none_iff.2 large), rfl⟩
    · rintro ⟨-, -, rfl⟩
      rfl
  | refused cause nonneg computed refusal =>
    constructor
    · intro h
      cases h
    · rintro ⟨-, admitted, -⟩
      exact absurd (admitted (unitPower?_eq_none_iff.1 computed)) refusal

theorem of_power_eq_error {e : Refusal} (h : power limits base exponent = .error e) :
    (∃ cause, e = .invalidExponent exponent cause) ∧
      (exponent < 0 ∨ 2 ≤ base.natAbs ∧ ¬ limits.Admits base exponent.toNat) := by
  have outcome := powerOutcome limits base exponent
  rw [h] at outcome
  cases outcome with
  | negative below => exact ⟨⟨_, rfl⟩, .inl below⟩
  | refused cause _ computed refusal =>
    exact ⟨⟨cause, rfl⟩, .inr ⟨unitPower?_eq_none_iff.1 computed, refusal⟩⟩

/-- For a base that has to be computed with, the limits decide. -/
theorem power_refused_iff (large : 2 ≤ base.natAbs) (nonneg : 0 ≤ exponent) :
    (∃ e, power limits base exponent = .error e) ↔ ¬ limits.Admits base exponent.toNat := by
  constructor
  · rintro ⟨e, refused⟩
    obtain ⟨-, below | ⟨-, refusal⟩⟩ := of_power_eq_error refused
    · omega
    · exact refusal
  · intro refusal
    cases result : power limits base exponent with
    | error e => exact ⟨e, rfl⟩
    | ok v => exact absurd ((power_eq_ok_iff.1 result).2.1 large) refusal

end

/-! ### The guard -/

namespace Limits

/-- Whether the power of a base of so many bits goes over the limits. -/
def Exceeded (limits : Limits) (bits : Nat) (exponent : Int) : Prop :=
  limits.exponentMax.toNat < exponent ∨
    1 < exponent ∧ limits.bitsMax.toNat < ((bits : Int) - 1) * exponent

variable {limits : Limits} {base : Int} {n : Nat}

theorem not_admits_iff :
    ¬ limits.Admits base n ↔ limits.exponentMax.toNat < n ∨
      1 < n ∧ limits.bitsMax.toNat < powerBits base n := by
  constructor
  · intro refusal
    by_contra within
    rw [not_or, Nat.not_lt, not_and, Nat.not_lt] at within
    exact refusal ⟨within.1, within.2⟩
  · rintro (above | ⟨more, beyond⟩) admits
    · exact absurd admits.exponent (Nat.not_le.2 above)
    · exact absurd (admits.bits more) (Nat.not_le.2 beyond)

/-- A budget below the largest word is not reached by the cut. -/
theorem powerBits_le_iff (budget : limits.bitsMax.toNat < 2 ^ 64 - 1) (base : Int) (n : Nat) :
    powerBits base n ≤ limits.bitsMax.toNat ↔ base.natAbs.log2 * n ≤ limits.bitsMax.toNat := by
  rw [powerBits, estimateMax, show UInt64.size = 2 ^ 64 from rfl]
  omega

theorem not_admits_iff_exceeded (budget : limits.bitsMax.toNat < 2 ^ 64 - 1) (h : base ≠ 0)
    (n : Nat) :
    ¬ limits.Admits base n ↔ limits.Exceeded base.natAbs.size n := by
  have estimate : ((base.natAbs.size : Int) - 1) * n = (base.natAbs.log2 * n : Nat) := by
    rw [size_eq_log2_add_one (Int.natAbs_ne_zero.2 h), Nat.cast_mul, Nat.cast_add_one,
      Int.add_sub_cancel]
  have cut := powerBits_le_iff budget base n
  rw [not_admits_iff, Exceeded, estimate]
  omega

end Limits

/-! ### The guard in words -/

/-- The word of 32 bits for an integer, if there is one. -/
def word32? (n : Int) : Option UInt32 :=
  if 0 ≤ n ∧ n < UInt32.size then some (UInt32.ofNat n.toNat) else none

/-- The product of two words, cut off at the largest one. -/
def saturatingMul (a b : UInt64) : UInt64 :=
  UInt64.ofNat (min (a.toNat * b.toNat) estimateMax)

theorem toNat_saturatingMul (a b : UInt64) :
    (saturatingMul a b).toNat = min (a.toNat * b.toNat) estimateMax := by
  have fits : min (a.toNat * b.toNat) estimateMax < UInt64.size :=
    Nat.lt_of_le_of_lt (Nat.min_le_right ..) (by decide)
  exact UInt64.toNat_ofNat_of_lt' fits

namespace Limits

/-- Whether the power of a base of so many bits goes over the limits, reckoned in words. -/
def exceededInWords (limits : Limits) (bits : UInt64) (exponent : Int) : Bool :=
  match word32? exponent with
  | none => true
  | some n =>
    limits.exponentMax < n || (1 < n && limits.bitsMax < saturatingMul (bits - 1) n.toUInt64)

theorem exceededInWords_iff (limits : Limits) {base exponent : Int} {bits : UInt64}
    (large : 2 ≤ base.natAbs) (nonneg : 0 ≤ exponent) (h : bits.toNat = base.natAbs.size) :
    limits.exceededInWords bits exponent = true ↔ ¬ limits.Admits base exponent.toNat := by
  have size := size_eq_log2_add_one (n := base.natAbs) (by omega)
  have factor : (bits - 1).toNat = base.natAbs.log2 := by
    have one : (1 : UInt64) ≤ bits := by
      rw [UInt64.le_iff_toNat_le, h, size]
      exact Nat.le_add_left 1 _
    rw [UInt64.toNat_sub_of_le _ _ one, h, size]
    rfl
  rw [not_admits_iff, exceededInWords, word32?]
  by_cases fits : 0 ≤ exponent ∧ exponent < UInt32.size
  · have word : (UInt32.ofNat exponent.toNat).toNat = exponent.toNat :=
      UInt32.toNat_ofNat_of_lt' (by omega)
    rw [if_pos fits]
    simp only [Bool.or_eq_true, Bool.and_eq_true, decide_eq_true_eq, UInt32.lt_iff_toNat_lt,
      UInt64.lt_iff_toNat_lt, toNat_saturatingMul, UInt32.toNat_toUInt64, word, factor]
    rfl
  · -- an exponent without a word is above every largest exponent
    have bound := limits.exponentMax.toNat_lt
    have above : limits.exponentMax.toNat < exponent.toNat := by
      rw [show UInt32.size = 2 ^ 32 from rfl] at fits
      omega
    rw [if_neg fits]
    exact ⟨fun _ => .inl above, fun _ => rfl⟩

end Limits

/-! ### Powers -/

/-- **Powers are exact, and the budget is two-sided**.

- A value is the power of the base, and the exponent is not negative.
- A refusal carries the exponent. A base that needs no computation is refused a negative exponent
  only; any other base is also refused an exponent above the largest one, and a power that takes
  more bits than the budget has.
- What is accepted takes no more bits than the budget and the exponent together.
- The exponents `0` and `1` are held against the largest exponent only.
- Whether the limits refuse is the same reckoned in words of fixed width, whatever the budget, and
  reckoned in integers, if the budget is below the largest word. -/
theorem power_exact (limits : Limits) (base exponent : Int) :
    (∀ v, power limits base exponent = .ok v → 0 ≤ exponent ∧ v = base ^ exponent.toNat) ∧
      power limits 0 0 = .ok 1 ∧
      (∀ e, power limits base exponent = .error e →
        (∃ cause, e = .invalidExponent exponent cause) ∧ (base.natAbs ≤ 1 → exponent < 0) ∧
          (exponent < 0 ∨ limits.exponentMax.toNat < exponent ∨
            limits.bitsMax.toNat < (base ^ exponent.toNat).natAbs.size)) ∧
      (2 ≤ base.natAbs → 2 ≤ exponent → limits.bitsMax.toNat < 2 ^ 64 - 1 →
        ∀ v, power limits base exponent = .ok v →
          v.natAbs.size ≤ limits.bitsMax.toNat + exponent.toNat) ∧
      (2 ≤ base.natAbs → exponent = 0 ∨ exponent = 1 → exponent ≤ limits.exponentMax.toNat →
        power limits base exponent = .ok (base ^ exponent.toNat)) ∧
      (2 ≤ base.natAbs → 0 ≤ exponent →
        (∀ bits : UInt64, bits.toNat = base.natAbs.size →
          ((∃ e, power limits base exponent = .error e) ↔
            limits.exceededInWords bits exponent = true)) ∧
        (limits.bitsMax.toNat < 2 ^ 64 - 1 →
          ((∃ e, power limits base exponent = .error e) ↔
            limits.Exceeded base.natAbs.size exponent))) := by
  refine ⟨?_, rfl, ?_, ?_, ?_, ?_⟩
  · intro v accepted
    obtain ⟨nonneg, -, value⟩ := power_eq_ok_iff.1 accepted
    exact ⟨nonneg, value⟩
  · intro e refused
    obtain ⟨cause, reason⟩ := of_power_eq_error refused
    refine ⟨cause, by omega, ?_⟩
    rcases reason with below | ⟨large, refusal⟩
    · exact .inl below
    · rcases Limits.not_admits_iff.1 refusal with above | ⟨-, beyond⟩
      · exact .inr (.inl (by omega))
      · have estimate : powerBits base exponent.toNat ≤ base.natAbs.log2 * exponent.toNat :=
          Nat.min_le_left ..
        have size : base.natAbs.log2 * exponent.toNat < (base ^ exponent.toNat).natAbs.size :=
          lt_size_pow (by omega) exponent.toNat
        exact .inr (.inr (by omega))
  · intro large more budget v accepted
    obtain ⟨nonneg, admitted, rfl⟩ := power_eq_ok_iff.1 accepted
    have estimate := (Limits.powerBits_le_iff budget base _).1 ((admitted large).bits (by omega))
    have size := size_pow_le base (n := exponent.toNat) (by omega)
    omega
  · intro large small within
    refine power_eq_ok_iff.2 ⟨by omega, fun _ => ⟨by omega, fun more => ?_⟩, rfl⟩
    omega
  · intro large nonneg
    constructor
    · intro bits h
      rw [power_refused_iff large nonneg, limits.exceededInWords_iff large nonneg h]
    · intro budget
      have nonzero : base ≠ 0 := by omega
      have exceeded := Limits.not_admits_iff_exceeded budget nonzero exponent.toNat
      rw [Int.toNat_of_nonneg nonneg] at exceeded
      rw [power_refused_iff large nonneg, exceeded]

/-- Powers of `-2` on both sides of a budget of sixty-four bits, the zeroth power of zero, and a
base beyond the budget. -/
theorem power_exact_boundary :
    let limits : Limits := ⟨100, 64⟩
    let beyond : PowerRefusal := .overBudget 65 64
    power limits (-2) 64 = .ok (2 ^ 64) ∧ (2 : Int) ^ 64 = (-2) ^ 64 ∧
      (2 ^ 64 : Int).natAbs.size ≤ 64 + 64 ∧
      power limits (-2) 65 = .error (.invalidExponent 65 beyond) ∧
      64 < ((-2 : Int) ^ 65).natAbs.size ∧ limits.exceededInWords 2 65 = true ∧
      limits.Exceeded (Int.natAbs (-2)).size 65 ∧
      power limits 0 (-1) = .error (.invalidExponent (-1) .negative) ∧
      power limits (2 ^ 100) 1 = .ok ((2 ^ 100) ^ 1) := by
  intro limits beyond
  have accepted : power limits (-2) 64 = .ok (2 ^ 64) := by decide
  have refused : power limits (-2) 65 = .error (.invalidExponent 65 beyond) := by decide
  have large : 2 ≤ (-2 : Int).natAbs := by decide
  have budget : limits.bitsMax.toNat < 2 ^ 64 - 1 := by decide
  obtain ⟨words, integers⟩ := (power_exact limits (-2) 65).2.2.2.2.2 large (by decide)
  obtain ⟨-, -, reason⟩ := (power_exact limits (-2) 65).2.2.1 _ refused
  refine ⟨accepted, ((power_exact limits (-2) 64).1 _ accepted).2,
    (power_exact limits (-2) 64).2.2.2.1 large (by decide) budget _ accepted, refused, ?_,
    (words 2 (by decide)).1 ⟨_, refused⟩, (integers budget).1 ⟨_, refused⟩, by decide,
    (power_exact limits (2 ^ 100) 1).2.2.2.2.1 (by decide) (.inr rfl) (by decide)⟩
  rcases reason with below | above | short
  · exact absurd below (by decide)
  · exact absurd above (by decide)
  · exact short

end Abacus
