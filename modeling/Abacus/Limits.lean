/-!
# Limits of a calculation

Integers are exact and unbounded, so a power could ask for a result that no memory holds. Two
limits stand in the way: the largest exponent, and a budget of bits for the result.
-/

namespace Abacus

/-- What a power may ask for. -/
structure Limits where
  /-- The largest exponent. -/
  exponentMax : UInt32 := 100000
  /-- The largest size, in bits, that the smallest possible result may have. -/
  bitsMax : UInt64 := 1048576
  deriving DecidableEq, Repr

/-- The limits in force unless others are asked for. -/
def Limits.standard : Limits := {}

instance : Inhabited Limits := ⟨.standard⟩

end Abacus
