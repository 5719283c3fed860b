import Abacus.Text.Decimal
import Mathlib.Tactic.Ring

/-!
# Numerals read back

What the printer writes, the readers read as the number that was printed.

- `value_append`: the value of one numeral in front of another.
- `value_digits`: the numeral of a number stands for that number.
- `readSigned?_ofInt`: the same for integers of either sign.
-/

namespace Abacus.Decimal

/-- The digits read so far count as many times more as there are digits to come. -/
theorem foldl_value (s : Text) (n : Nat) :
    s.foldl (fun n c => 10 * n + digitValue c) n = n * 10 ^ s.length + value s := by
  induction s generalizing n with
  | nil => simp [value]
  | cons c s ih =>
    rw [value, List.foldl_cons, List.foldl_cons, ih, ih (10 * 0 + digitValue c),
      List.length_cons]
    ring

/-- A numeral in front of another one counts as many times more as the latter has digits. -/
theorem value_append (s t : Text) : value (s ++ t) = value s * 10 ^ t.length + value t := by
  rw [value, List.foldl_append, foldl_value t]
  rfl

theorem digitValue_ofNat : ∀ d < 10, digitValue (Char.ofNat ('0'.toNat + d)) = d := by
  decide

theorem isDigit_ofNat : ∀ d < 10, (Char.ofNat ('0'.toNat + d)).isDigit = true := by
  decide

theorem digitValue_digit (n : Nat) : digitValue (digit n) = n % 10 :=
  digitValue_ofNat _ (Nat.mod_lt n (by decide))

theorem isDigit_digit (n : Nat) : (digit n).isDigit = true :=
  isDigit_ofNat _ (Nat.mod_lt n (by decide))

theorem lastDigits_succ (k n : Nat) :
    lastDigits (k + 1) n = lastDigits k (n / 10 ^ 2 ^ k) ++ lastDigits k (n % 10 ^ 2 ^ k) :=
  rfl

theorem length_lastDigits (k n : Nat) : (lastDigits k n).length = 2 ^ k := by
  induction k generalizing n with
  | zero => rfl
  | succ k ih =>
    rw [lastDigits_succ, List.length_append, ih, ih, Nat.pow_succ, Nat.mul_two]

/-- A number with at most `2 ^ k` digits is the value of its last `2 ^ k` digits. -/
theorem value_lastDigits {k n : Nat} (h : n < 10 ^ 2 ^ k) : value (lastDigits k n) = n := by
  induction k generalizing n with
  | zero =>
    simp [lastDigits, value, digitValue_digit]
    exact h
  | succ k ih =>
    have half : 0 < 10 ^ 2 ^ k := Nat.pow_pos (by decide)
    have front : n / 10 ^ 2 ^ k < 10 ^ 2 ^ k := by
      rw [Nat.div_lt_iff_lt_mul half, ← Nat.pow_add, ← Nat.mul_two, ← Nat.pow_succ]
      exact h
    rw [lastDigits_succ, value_append, ih front, ih (Nat.mod_lt n half), length_lastDigits]
    exact Nat.div_add_mod' n _

theorem lt_pow_doublings (n : Nat) : n < 10 ^ 2 ^ doublings n := by
  have size : n < 2 ^ (n.log2 + 1) := Nat.lt_log2_self
  have room : n.log2 / 3 + 1 < 2 ^ doublings n := Nat.lt_log2_self
  calc n < 2 ^ (n.log2 + 1) := size
    _ ≤ 2 ^ (3 * (n.log2 / 3 + 1)) := Nat.pow_le_pow_right (by decide) (by omega)
    _ = 8 ^ (n.log2 / 3 + 1) := by rw [Nat.pow_mul]
    _ ≤ 10 ^ (n.log2 / 3 + 1) := Nat.pow_le_pow_left (by decide) _
    _ ≤ 10 ^ 2 ^ doublings n := Nat.pow_le_pow_right (by decide) (by omega)

/-- Leading zeros do not count. -/
theorem value_dropWhile_zero (s : Text) : value (s.dropWhile (· = '0')) = value s := by
  induction s with
  | nil => rfl
  | cons c s ih =>
    by_cases h : c = '0'
    · subst h
      rw [List.dropWhile_cons_of_pos (by decide), ih]
      rfl
    · rw [List.dropWhile_cons_of_neg (by simpa using h)]

/-- The numeral of a number stands for it. -/
theorem value_digits (n : Nat) : value (digits n) = n := by
  have read : value ((lastDigits (doublings n) n).dropWhile (· = '0')) = n := by
    rw [value_dropWhile_zero, value_lastDigits (lt_pow_doublings n)]
  rw [digits]
  split
  · next h =>
    rw [h] at read
    exact read
  · exact read

theorem isDigit_of_mem_lastDigits {k n : Nat} {c : Char} (h : c ∈ lastDigits k n) :
    c.isDigit = true := by
  induction k generalizing n with
  | zero => exact List.mem_singleton.1 h ▸ isDigit_digit n
  | succ k ih => exact (List.mem_append.1 h).elim ih ih

/-- A numeral of a number is one that the readers accept. -/
theorem isNumeral_digits (n : Nat) : isNumeral (digits n) = true := by
  rw [digits]
  split
  · decide
  · next s hs =>
    simp only [isNumeral, Bool.and_eq_true, Bool.not_eq_true', List.isEmpty_eq_false_iff]
    refine ⟨hs, List.all_eq_true.2 fun c hc => ?_⟩
    exact isDigit_of_mem_lastDigits ((List.dropWhile_sublist _).subset hc)

theorem isDigit_of_mem_digits {n : Nat} {c : Char} (h : c ∈ digits n) : c.isDigit = true :=
  List.all_eq_true.1 (Bool.and_eq_true_iff.1 (isNumeral_digits n)).2 c h

/-- An integer is written with digits and a sign. -/
theorem isDigit_of_mem_ofInt {v : Int} {c : Char} (h : c ∈ ofInt v) (unsigned : c ≠ '-') :
    c.isDigit = true := by
  cases v with
  | ofNat n => exact isDigit_of_mem_digits h
  | negSucc n =>
    rcases List.mem_cons.1 h with sign | h
    · exact absurd sign unsigned
    · exact isDigit_of_mem_digits h

/-- Reading gives back the number that was written. -/
theorem read?_digits (n : Nat) : read? (digits n) = some n := by
  rw [read?, if_pos (isNumeral_digits n), value_digits]

/-- A numeral without a sign stands for its value. -/
theorem readSigned?_of_isNumeral {s : Text} (h : isNumeral s = true) :
    readSigned? s = some (value s : Int) := by
  unfold readSigned?
  split
  · simp [isNumeral, Char.isDigit] at h
  · simp [isNumeral, Char.isDigit] at h
  · rw [read?, if_pos h]
    rfl

/-- Reading gives back the integer that was written. -/
theorem readSigned?_ofInt (n : Int) : readSigned? (ofInt n) = some n := by
  cases n with
  | ofNat n => rw [ofInt, readSigned?_of_isNumeral (isNumeral_digits n), value_digits]; rfl
  | negSucc n => rw [ofInt, readSigned?, read?_digits]; rfl

end Abacus.Decimal
