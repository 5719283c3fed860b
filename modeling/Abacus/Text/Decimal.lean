import Abacus.Text.Blank

/-!
# Decimal numerals

Integers are written in base ten without leading zeros, a negative one with a `-` in front.
Readers are more generous than the printer: leading zeros are allowed, and a signed numeral
may start with `+`.

- `Decimal.value`: the number that a run of digits stands for.
- `Decimal.digits`: the shortest numeral of a natural number.
- `Decimal.ofInt`: the text of an integer.
- `Decimal.readUnsigned?`, `Decimal.readSigned?`: read `[+]?[0-9]+` and `[+-]?[0-9]+`.

The printer halves the number of digits at every step instead of taking them off one by one:
numerals of a hundred thousand digits are in reach of a power, and the division of a long
number by ten costs as much as its length.
-/

namespace Abacus.Decimal

/-- The value of a digit. -/
def digitValue (c : Char) : Nat :=
  c.toNat - '0'.toNat

/-- The character of a value below ten. -/
def digit (n : Nat) : Char :=
  Char.ofNat ('0'.toNat + n % 10)

/-- The number that a run of digits stands for; the empty run stands for zero. -/
def value (s : Text) : Nat :=
  s.foldl (fun n c => 10 * n + digitValue c) 0

/-- The last `2 ^ k` digits of a number, leading zeros included. -/
def lastDigits : Nat → Nat → Text
  | 0, n => [digit n]
  | k + 1, n =>
    let half := Nat.pow 10 (Nat.pow 2 k)
    lastDigits k (n / half) ++ lastDigits k (n % half)

/-- A number of doublings that makes room for every digit of `n`: a digit takes more than
three bits, and a number of `m` bits is below `2 ^ m`. -/
def doublings (n : Nat) : Nat :=
  (n.log2 / 3 + 1).log2 + 1

/-- The numeral of a natural number, without leading zeros. -/
def digits (n : Nat) : Text :=
  match (lastDigits (doublings n) n).dropWhile (· = '0') with
  | [] => ['0']
  | s => s

/-- The text of an integer. -/
def ofInt : Int → Text
  | .ofNat n => digits n
  | .negSucc n => '-' :: digits (n + 1)

/-- Whether a text is a non-empty run of digits. -/
def isNumeral (s : Text) : Bool :=
  !s.isEmpty && s.all Char.isDigit

/-- Reads a numeral. -/
def read? (s : Text) : Option Nat :=
  if isNumeral s then some (value s) else none

/-- Reads a numeral with at most one `+` in front. -/
def readUnsigned? : Text → Option Nat
  | '+' :: s => read? s
  | s => read? s

/-- Reads a numeral with at most one sign in front. -/
def readSigned? : Text → Option Int
  | '-' :: s => (read? s).map fun n => -(n : Int)
  | '+' :: s => (read? s).map fun n => (n : Int)
  | s => (read? s).map fun n => (n : Int)

end Abacus.Decimal
